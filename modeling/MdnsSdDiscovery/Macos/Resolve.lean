import MdnsSdDiscovery.Lib.Runs
import MdnsSdDiscovery.Macos.Pump
import MdnsSdDiscovery.Txt

/-!
# The resolve of one instance (`src/macos/browse.rs`)

`do_resolve` and `get_addresses` each start one native operation and block
until its replies have been dispatched.  The daemon is a function from what the
operation asks for to what becomes of it, and `display` is `to_string` of an
error.

* `Holds`: what the replies leave in a `ResolveResult`;
* `doResolve_last_iff`: when a resolve is about its last reply alone;
* `getAddresses_present_iff`: when an address lookup returns what is present.
-/

namespace MdnsSdDiscovery.Macos

open Runs IpAddr

/-! ## `do_resolve` -/

/-- `u16::from_be` on the little-endian machines that macOS runs on. -/
def portFromBe (raw : UInt16) : UInt16 := (raw <<< 8) ||| (raw >>> 8)

example : portFromBe 0x901F = 8080 := by decide

/-- One call of `resolve_callback`; `txtRecord` is null or points to `txtLen` bytes. -/
structure ResolveReply where
  errorCode : Int32
  hostTarget : CStr
  port : UInt16
  txtLen : UInt16
  txtRecord : Option (Vector UInt8 txtLen.toNat)

structure ResolveResult where
  host : Option String := none
  port : UInt16 := 0
  txt : List TxtRecord := []
  error : Int32 := 0
  got : Bool := false
  deriving DecidableEq, Repr

theorem isSome_parseTxtBuffer (buf : List UInt8) : (Txt.parseTxtBuffer buf).isSome = true := by
  rw [Txt.parseTxtBuffer_eq]
  rfl

/-- `parse_txt_buffer`, which returns on every buffer. -/
def txtRecords (buf : List UInt8) : List TxtRecord :=
  (Txt.parseTxtBuffer buf).get (isSome_parseTxtBuffer buf)

/-- `resolve_callback` -/
def resolveCallback (result : ResolveResult) (reply : ResolveReply) : ResolveResult :=
  let result := { result with got := true, error := reply.errorCode }
  if reply.errorCode ≠ noError then result
  else
    let result := { result with
      host := some (cstrToString reply.hostTarget)
      port := portFromBe reply.port }
    match reply.txtRecord with
    | none => result
    | some txt => if 0 < reply.txtLen then { result with txt := txtRecords txt.toList } else result

/-- What `poll` and `DNSServiceProcessResult` return to `process_once`. -/
structure Once where
  rv : Int32
  strerror : String
  err : Int32
  deriving DecidableEq, Repr

/-- `process_once` -/
def processOnce (once : Once) : Except String Unit :=
  if once.rv < 0 then .error s!"poll failed: {once.strerror}"
  else if once.rv = 0 then .error "operation timed out"
  else if once.err ≠ noError then .error "DNSServiceProcessResult failed"
  else .ok ()

/-- What `DNSServiceResolve` is asked for. -/
structure ResolveRequest where
  interface : UInt32
  name : List UInt8
  regtype : List UInt8
  domain : List UInt8
  deriving DecidableEq, Repr

/-- What becomes of one `DNSServiceResolve`: its status, and the replies that
`DNSServiceProcessResult` dispatches if it is reached. -/
structure ResolveAnswer where
  err : Int32
  once : Once
  replies : List ResolveReply

/-- The `ResolveResult` after `process_once`. -/
def ResolveAnswer.result (answer : ResolveAnswer) : ResolveResult :=
  if 0 < answer.once.rv then answer.replies.foldl resolveCallback {} else {}

/-- `do_resolve` -/
def doResolve (display : ServiceBrowseError → String) (daemon : ResolveRequest → ResolveAnswer)
    (name regtype domain : String) (interface : UInt32) :
    Except String (String × UInt16 × List TxtRecord) := do
  let nameC ← (cstring name).mapError display
  let regtypeC ← (cstring regtype).mapError display
  let domainC ← (cstring domain).mapError display
  let answer := daemon ⟨interface, nameC, regtypeC, domainC⟩
  if answer.err ≠ noError then .error s!"DNSServiceResolve failed: {answer.err}"
  else
    processOnce answer.once
    let result := answer.result
    if ¬ result.got ∨ result.error ≠ noError then
      .error s!"resolve did not complete (error {result.error})"
    else .ok (result.host.getD "", result.port, result.txt)

/-! ## What the replies of a resolve leave -/

/-- The bytes of the TXT record, none for a null pointer. -/
def ResolveReply.buffer (reply : ResolveReply) : List UInt8 :=
  (reply.txtRecord.map (·.toList)).getD []

def ResolveReply.succeeded (reply : ResolveReply) : Bool := reply.errorCode = noError

/-- The reply overwrites the TXT records. -/
def ResolveReply.carriesTxt (reply : ResolveReply) : Bool :=
  reply.succeeded && reply.buffer ≠ []

/-- **What one reply overwrites.** -/
theorem resolveCallback_eq (result : ResolveResult) (reply : ResolveReply) :
    resolveCallback result reply =
      { host := if reply.succeeded then some (cstrToString reply.hostTarget) else result.host
        port := if reply.succeeded then portFromBe reply.port else result.port
        txt := if reply.carriesTxt then txtRecords reply.buffer else result.txt
        error := reply.errorCode
        got := true } := by
  obtain ⟨errorCode, hostTarget, port, txtLen, txtRecord⟩ := reply
  unfold resolveCallback ResolveReply.carriesTxt ResolveReply.succeeded ResolveReply.buffer
  by_cases herr : errorCode = noError
  · cases txtRecord with
    | none => simp [herr]
    | some txt =>
      have hlen : (txt.toList = []) ↔ ¬ 0 < txtLen := by
        rw [← List.length_eq_zero_iff, Vector.length_toList, UInt16.lt_iff_toNat_lt]
        simp
      by_cases hpos : 0 < txtLen
      · simp [herr, hpos, hlen]
      · simp [herr, hpos, hlen]
  · simp [herr]

/-- Each field is from the last reply that overwrites it. -/
structure Holds (replies : List ResolveReply) (result : ResolveResult) : Prop where
  got : result.got = true ↔ replies ≠ []
  error : ∀ last, replies.getLast? = some last → result.error = last.errorCode
  host : result.host =
    ((replies.filter ResolveReply.succeeded).getLast?).map fun r => cstrToString r.hostTarget
  port : ∀ last, (replies.filter ResolveReply.succeeded).getLast? = some last →
    result.port = portFromBe last.port
  txt : result.txt =
    (((replies.filter ResolveReply.carriesTxt).getLast?).map fun r => txtRecords r.buffer).getD []

theorem Holds.resolveCallback {replies : List ResolveReply} {result : ResolveResult}
    (h : Holds replies result) (reply : ResolveReply) :
    Holds (replies ++ [reply]) (resolveCallback result reply) := by
  rw [resolveCallback_eq]
  constructor
  · simp
  · intro last hlast
    rw [List.getLast?_concat] at hlast
    rw [Option.some.inj hlast]
  · rw [getLast?_filter_snoc]
    cases hs : reply.succeeded
    · exact h.host
    · rfl
  · intro last hlast
    rw [getLast?_filter_snoc] at hlast
    cases hs : reply.succeeded <;> rw [hs] at hlast
    · exact h.port last hlast
    · cases hlast
      rfl
  · rw [getLast?_filter_snoc]
    cases hs : reply.carriesTxt
    · exact h.txt
    · rfl

theorem holds_foldl (replies : List ResolveReply) :
    Holds replies (replies.foldl resolveCallback {}) := by
  induction replies using List.reverseRecOn with
  | nil => constructor <;> simp
  | append_singleton replies reply ih =>
    rw [List.foldl_concat]
    exact ih.resolveCallback reply

/-! ## When a resolve is about its last reply -/

/-- The result comes from the last of the replies, and is a value exactly when
that one is a success. -/
structure FromLast (replies : List ResolveReply)
    (result : Except String (String × UInt16 × List TxtRecord)) : Prop where
  ok : (∃ value, result = .ok value) ↔
    ∃ last, replies.getLast? = some last ∧ last.errorCode = noError
  value : ∀ last, replies.getLast? = some last → ∀ host port txt, result = .ok (host, port, txt) →
    host = cstrToString last.hostTarget ∧ port = portFromBe last.port ∧
      txt = txtRecords last.buffer

/-- A last reply that fails, or none, gives an error. -/
theorem Holds.not_completed {replies : List ResolveReply} {result : ResolveResult}
    (h : Holds replies result)
    (hlast : ∀ last, replies.getLast? = some last → last.errorCode ≠ noError) :
    ¬ result.got ∨ result.error ≠ noError := by
  cases hreplies : replies.getLast? with
  | none =>
    left
    rw [h.got]
    exact not_not.mpr (List.getLast?_eq_none_iff.mp hreplies)
  | some last =>
    right
    rw [h.error last hreplies]
    exact hlast last hreplies

/-- A last reply that succeeds completes the resolve, with its host and port. -/
theorem Holds.completed {replies : List ResolveReply} {result : ResolveResult}
    (h : Holds replies result) {last : ResolveReply} (hlast : replies.getLast? = some last)
    (hok : last.errorCode = noError) :
    ¬ (¬ result.got ∨ result.error ≠ noError) ∧
      result.host = some (cstrToString last.hostTarget) ∧ result.port = portFromBe last.port := by
  have hne : replies ≠ [] := by
    rintro rfl
    cases hlast
  have hsuccess := getLast?_filter_of_getLast? (q := ResolveReply.succeeded) hlast
    (decide_eq_true hok)
  refine ⟨?_, ?_, h.port last hsuccess⟩
  · rw [h.error last hlast, not_or, not_not, not_not]
    exact ⟨h.got.mpr hne, hok⟩
  · rw [h.host, hsuccess]
    rfl

theorem txtRecords_nil : txtRecords [] = [] := by
  rw [← Option.some_inj, txtRecords, Option.some_get, Txt.parseTxtBuffer_eq, Frames.unpack_nil]
  rfl

theorem Holds.txt_eq_iff {replies : List ResolveReply} {result : ResolveResult}
    (h : Holds replies result) {last : ResolveReply} (hlast : replies.getLast? = some last)
    (hok : last.errorCode = noError) :
    result.txt = txtRecords last.buffer ↔
      (last.buffer = [] → ∀ earlier, (replies.filter ResolveReply.carriesTxt).getLast? =
        some earlier → txtRecords earlier.buffer = []) := by
  rw [h.txt]
  by_cases hbuffer : last.buffer = []
  · rw [hbuffer, txtRecords_nil]
    cases (replies.filter ResolveReply.carriesTxt).getLast? with
    | none => simp
    | some earlier => simp
  · have hcarries : last.carriesTxt = true := by
      simp [ResolveReply.carriesTxt, ResolveReply.succeeded, hok, hbuffer]
    rw [getLast?_filter_of_getLast? hlast hcarries]
    simp [hbuffer]

section
variable (display : ServiceBrowseError → String) (daemon : ResolveRequest → ResolveAnswer)
  {name regtype domain : String} (request : ResolveRequest)

/-- `do_resolve` behind the calls that succeed. -/
theorem doResolve_eq (hname : cstring name = .ok request.name)
    (hregtype : cstring regtype = .ok request.regtype)
    (hdomain : cstring domain = .ok request.domain) (hstart : (daemon request).err = noError)
    (hpoll : 0 < (daemon request).once.rv) (hprocessed : (daemon request).once.err = noError) :
    let result := (daemon request).replies.foldl resolveCallback {}
    doResolve display daemon name regtype domain request.interface =
      if ¬ result.got ∨ result.error ≠ noError then
        .error s!"resolve did not complete (error {result.error})"
      else .ok (result.host.getD "", result.port, result.txt) := by
  intro result
  have honce : processOnce (daemon request).once = .ok () := by
    have hneg : ¬ (daemon request).once.rv < 0 := Int32.not_lt.mpr (Int32.le_of_lt hpoll)
    have hzero : (daemon request).once.rv ≠ 0 := (Int32.ne_of_lt hpoll).symm
    rw [processOnce, if_neg hneg, if_neg hzero, if_neg (not_not.mpr hprocessed)]
  have hresult : (daemon request).result = result := if_pos hpoll
  unfold doResolve
  rw [hname, hregtype, hdomain]
  change (if (daemon request).err ≠ noError then _ else _) = _
  rw [if_neg (not_not.mpr hstart), honce, hresult]
  rfl

/-- **A resolve is about its last reply alone exactly when** that reply is no
success, carries TXT bytes, or no earlier success left TXT records behind. -/
theorem doResolve_last_iff (hname : cstring name = .ok request.name)
    (hregtype : cstring regtype = .ok request.regtype)
    (hdomain : cstring domain = .ok request.domain) (hstart : (daemon request).err = noError)
    (hpoll : 0 < (daemon request).once.rv) (hprocessed : (daemon request).once.err = noError) :
    FromLast (daemon request).replies
        (doResolve display daemon name regtype domain request.interface) ↔
      ∀ last, (daemon request).replies.getLast? = some last → last.errorCode = noError →
        last.buffer = [] →
        ∀ earlier, ((daemon request).replies.filter ResolveReply.carriesTxt).getLast? =
          some earlier → txtRecords earlier.buffer = [] := by
  have hholds := holds_foldl (daemon request).replies
  have heq := doResolve_eq display daemon request hname hregtype hdomain hstart hpoll hprocessed
  by_cases hlast : ∃ last, (daemon request).replies.getLast? = some last ∧ last.errorCode = noError
  · obtain ⟨last, hlast, hok⟩ := hlast
    obtain ⟨hdone, hhost, hport⟩ := hholds.completed hlast hok
    dsimp only at heq
    rw [if_neg hdone, hhost, hport] at heq
    rw [heq]
    constructor
    · intro h last' hlast' _
      obtain rfl : last = last' := Option.some.inj (hlast.symm.trans hlast')
      exact (hholds.txt_eq_iff hlast hok).mp (h.value last hlast _ _ _ rfl).2.2
    · intro h
      have htxt := (hholds.txt_eq_iff hlast hok).mpr (h last hlast hok)
      refine ⟨iff_of_true ⟨_, rfl⟩ ⟨last, hlast, hok⟩, ?_⟩
      intro last' hlast' host port txt hvalue
      obtain rfl : last = last' := Option.some.inj (hlast.symm.trans hlast')
      cases hvalue
      exact ⟨rfl, rfl, htxt⟩
  · have hfails := hholds.not_completed fun last h hok => hlast ⟨last, h, hok⟩
    dsimp only at heq
    rw [if_pos hfails] at heq
    rw [heq]
    refine iff_of_true ⟨iff_of_false ?_ hlast, ?_⟩ ?_
    · rintro ⟨value, hvalue⟩
      cases hvalue
    · intro last _ host port txt hvalue
      cases hvalue
    · intro last h hok
      exact absurd ⟨last, h, hok⟩ hlast

end

theorem cstring_eq_ok {s : String} (h : '\x00' ∉ s.toList) : cstring s = .ok (Utf8.encode s) := by
  have hnone : (Utf8.encode s).findIdx? (· = 0) = none := by
    rw [List.findIdx?_eq_none_iff]
    intro b hb
    refine decide_eq_false ?_
    rintro rfl
    exact h (Utf8.mem_encode_ascii (by decide) hb)
  rw [cstring, hnone]

/-- A success of `printer.local`, port 631, with the bytes as its TXT record. -/
def printerReply (txtLen : UInt16) (txtRecord : Option (Vector UInt8 txtLen.toNat)) :
    ResolveReply where
  errorCode := noError
  hostTarget := some (Utf8.encode "printer.local")
  port := 0x7702
  txtLen := txtLen
  txtRecord := txtRecord

/-- A daemon that dispatches the replies to every resolve. -/
def replying (replies : List ResolveReply) : ResolveRequest → ResolveAnswer :=
  fun _ => ⟨noError, ⟨1, "", noError⟩, replies⟩

/-- The records of a packed `a=1`. -/
theorem txtRecords_sample : txtRecords [3, 0x61, 0x3D, 0x31] = [⟨"a", some [0x31]⟩] := by
  have hpack : Frames.pack Txt.txtPrefix ([⟨"a", some [0x31]⟩].map Txt.encodeRecord) =
      [3, 0x61, 0x3D, 0x31] := by decide
  rw [← Option.some_inj, txtRecords, Option.some_get, ← hpack]
  refine Txt.parseTxtBuffer_encode ?_
  intro r hr
  rw [List.mem_singleton.mp hr]
  exact ⟨by decide, by decide, by decide⟩

/-- **A success without a TXT record** keeps the records of the success before it. -/
theorem doResolve_stale :
    let replies := [printerReply 4 (some #v[3, 0x61, 0x3D, 0x31]), printerReply 0 none]
    let result := doResolve (fun _ => "") (replying replies) "Printer" "_ipp._tcp" "local" 0
    result = .ok ("printer.local", 631, [⟨"a", some [0x31]⟩]) ∧ ¬ FromLast replies result := by
  intro replies result
  have heq := doResolve_eq (fun _ => "") (replying replies)
    ⟨0, Utf8.encode "Printer", Utf8.encode "_ipp._tcp", Utf8.encode "local"⟩
    (cstring_eq_ok (by decide)) (cstring_eq_ok (by decide)) (cstring_eq_ok (by decide)) rfl
    (by decide) rfl
  have hvalue : result = .ok ("printer.local", 631, [⟨"a", some [0x31]⟩]) := by
    have hhost : cstrToString (some (Utf8.encode "printer.local")) = "printer.local" :=
      Utf8.fromUtf8Lossy_encode _
    rw [← txtRecords_sample, ← hhost]
    exact heq
  refine ⟨hvalue, ?_⟩
  intro h
  have htxt := (h.value (printerReply 0 none) rfl _ _ _ hvalue).2.2
  have hnil : txtRecords (printerReply 0 none).buffer = [] := txtRecords_nil
  rw [hnil] at htxt
  cases htxt

/-- A refresh with its own TXT record. -/
theorem doResolve_last_iff_example :
    let replies := [printerReply 0 none, printerReply 4 (some #v[3, 0x61, 0x3D, 0x31])]
    FromLast replies
      (doResolve (fun _ => "") (replying replies) "Printer" "_ipp._tcp" "local" 0) := by
  intro replies
  refine (doResolve_last_iff (fun _ => "") (replying replies)
    ⟨0, Utf8.encode "Printer", Utf8.encode "_ipp._tcp", Utf8.encode "local"⟩
    (cstring_eq_ok (by decide)) (cstring_eq_ok (by decide)) (cstring_eq_ok (by decide)) rfl
    (by decide) rfl).mpr ?_
  intro last hlast _ hbuffer
  cases hlast
  cases hbuffer

/-! ## `get_addresses` -/

/-- `FLAGS_MORE_COMING` -/
def flagsMoreComing : UInt32 := 0x1

/-- A `sockaddr`, by its family. -/
inductive SockAddr where
  | inet (sAddr : UInt32)
  | inet6 (octets : Vector UInt8 16)
  | other (family : UInt8)
  deriving DecidableEq, Repr

/-- `sockaddr_to_ip` -/
def sockaddrToIp : SockAddr → Option IpAddr
  | .inet sAddr => some (ipv4FromU32 (fromBe sAddr))
  | .inet6 octets => some (ipv6FromOctets octets)
  | .other _ => none

/-- One call of `getaddr_callback`; a null address is `none`. -/
structure AddrReply where
  flags : UInt32
  errorCode : Int32
  address : Option SockAddr
  deriving DecidableEq, Repr

/-- `delivered` is history: the replies that were dispatched. -/
structure AddrResult where
  addrs : List IpAddr := []
  done : Bool := false
  delivered : List AddrReply := []
  deriving DecidableEq, Repr

/-- `getaddr_callback` -/
def getaddrCallback (result : AddrResult) (reply : AddrReply) : AddrResult :=
  let result := { result with delivered := result.delivered ++ [reply] }
  let result :=
    if reply.errorCode = noError then
      match reply.address.bind sockaddrToIp with
      | some ip => { result with addrs := result.addrs ++ [ip] }
      | none => result
    else result
  if reply.flags &&& flagsMoreComing = 0 then { result with done := true } else result

/-- One pass of the loop: what `poll` and `DNSServiceProcessResult` return, and
the replies that the latter dispatches. -/
structure AddrTurn where
  rv : Int32
  replies : List AddrReply
  err : Int32
  deriving DecidableEq, Repr

/-- The loop of `get_addresses` over the passes before the deadline. -/
def addressLoop (result : AddrResult) : List AddrTurn → AddrResult
  | [] => result
  | turn :: turns =>
    if result.done then result
    else if turn.rv ≤ 0 then result
    else
      let result := turn.replies.foldl getaddrCallback result
      if turn.err ≠ noError then result else addressLoop result turns

/-- What `DNSServiceGetAddrInfo` is asked for. -/
structure AddrRequest where
  interface : UInt32
  host : List UInt8
  deriving DecidableEq, Repr

/-- What becomes of one `DNSServiceGetAddrInfo`. -/
structure AddrAnswer where
  err : Int32
  turns : List AddrTurn
  deriving DecidableEq, Repr

/-- `get_addresses`, with its last `AddrResult`. -/
def lookupAddresses (daemon : AddrRequest → AddrAnswer) (host : String) (interface : UInt32) :
    Option AddrResult :=
  match cstring host with
  | .error _ => none
  | .ok hostC =>
    let answer := daemon ⟨interface, hostC⟩
    if answer.err ≠ noError then none else some (addressLoop {} answer.turns)

/-- `get_addresses` -/
def getAddresses (daemon : AddrRequest → AddrAnswer) (host : String) (interface : UInt32) :
    Option (List IpAddr) :=
  (lookupAddresses daemon host interface).map (·.addrs)

/-! ## What the replies of a lookup leave -/

/-- What a success with an address says of it: a reply without the Add flag
withdraws the address. -/
def AddrReply.change? (reply : AddrReply) : Option (Presence.Change IpAddr) :=
  if reply.errorCode = noError then
    (reply.address.bind sockaddrToIp).map fun ip =>
      if reply.flags &&& flagsAdd ≠ 0 then .insert ip else .delete ip
  else none

/-- The additions and withdrawals of the replies. -/
def addressLog (replies : List AddrReply) : List (Presence.Change IpAddr) :=
  replies.filterMap AddrReply.change?

/-- **What one reply adds**: its address, whatever its flags say of it. -/
theorem getaddrCallback_eq (result : AddrResult) (reply : AddrReply) :
    getaddrCallback result reply =
      { addrs := result.addrs ++ (reply.change?.map Presence.Change.key).toList
        done := result.done || reply.flags &&& flagsMoreComing = 0
        delivered := result.delivered ++ [reply] } := by
  unfold getaddrCallback AddrReply.change?
  dsimp only
  by_cases herr : reply.errorCode = noError
  · rw [if_pos herr, if_pos herr]
    cases reply.address.bind sockaddrToIp with
    | none => split <;> simp [*]
    | some ip =>
      have hkey : (if reply.flags &&& flagsAdd ≠ 0 then Presence.Change.insert ip
          else .delete ip).key = ip := by
        split <;> rfl
      rw [Option.map_some, Option.map_some, hkey]
      split <;> simp [*]
  · rw [if_neg herr, if_neg herr]
    split <;> simp [*]

/-- Every change that was delivered has left its address. -/
def Collected (result : AddrResult) : Prop :=
  result.addrs = (addressLog result.delivered).map Presence.Change.key

theorem Collected.getaddrCallback {result : AddrResult} (h : Collected result)
    (reply : AddrReply) : Collected (getaddrCallback result reply) := by
  rw [getaddrCallback_eq]
  unfold Collected addressLog
  dsimp only
  rw [filterMap_snoc, List.map_append, h]
  cases reply.change? <;> rfl

theorem Collected.addressLoop {result : AddrResult} (h : Collected result)
    (turns : List AddrTurn) : Collected (addressLoop result turns) := by
  induction turns generalizing result with
  | nil => exact h
  | cons turn turns ih =>
    have hpass : Collected (turn.replies.foldl Macos.getaddrCallback result) :=
      List.foldlRecOn (motive := Collected) turn.replies Macos.getaddrCallback h
        fun _ hr reply _ => hr.getaddrCallback reply
    unfold Macos.addressLoop
    split
    · exact h
    split
    · exact h
    dsimp only
    split
    · exact hpass
    · exact ih hpass

/-- **A lookup returns the addresses that are present exactly when** it ends
with no address withdrawn. -/
theorem getAddresses_present_iff {daemon : AddrRequest → AddrAnswer} {host : String}
    {interface : UInt32} {result : AddrResult}
    (h : lookupAddresses daemon host interface = some result) :
    getAddresses daemon host interface = some result.addrs ∧
    ((∀ ip, ip ∈ result.addrs ↔
        Presence.latest (addressLog result.delivered) ip = some (.insert ip)) ↔
      ∀ ip, Presence.latest (addressLog result.delivered) ip ≠ some (.delete ip)) := by
  have hcollected : Collected result := by
    unfold lookupAddresses at h
    split at h
    · cases h
    · dsimp only at h
      split at h
      · cases h
      · cases h
        have hnew : Collected {} := rfl
        exact hnew.addressLoop _
  refine ⟨by rw [getAddresses, h]; rfl, ?_⟩
  rw [← Presence.keys_eq_replay_iff, hcollected]
  simp only [Presence.mem_replay_iff]

/-- A reply about 192.168.1.10. -/
def hostReply (flags : UInt32) : AddrReply := ⟨flags, noError, some (.inet 0x0A01A8C0)⟩

/-- A daemon that dispatches the replies in one pass. -/
def answering (replies : List AddrReply) : AddrRequest → AddrAnswer :=
  fun _ => ⟨noError, [⟨1, replies, noError⟩]⟩

/-- **An address that is added and withdrawn** is returned. -/
theorem getAddresses_withdrawn :
    let replies := [hostReply (flagsAdd ||| flagsMoreComing), hostReply 0]
    let ip : IpAddr := .v4 #v[192, 168, 1, 10]
    lookupAddresses (answering replies) "printer.local" 0 =
      some ⟨[ip, ip], true, replies⟩ ∧
    Presence.latest (addressLog replies) ip = some (.delete ip) ∧
    ¬ ∀ a, a ∈ [ip, ip] ↔ Presence.latest (addressLog replies) a = some (.insert a) := by
  intro replies ip
  have hlatest : Presence.latest (addressLog replies) ip = some (.delete ip) := by
    decide
  refine ⟨?_, hlatest, ?_⟩
  · rw [lookupAddresses, cstring_eq_ok (by decide)]
    decide
  · intro h
    have hinsert := (h ip).mp (List.mem_cons_self ..)
    rw [hlatest] at hinsert
    cases hinsert

theorem getAddresses_present_iff_example :
    let replies := [hostReply (flagsAdd ||| flagsMoreComing), ⟨0, -65537, none⟩]
    let ip : IpAddr := .v4 #v[192, 168, 1, 10]
    ∀ a, a ∈ [ip] ↔ Presence.latest (addressLog replies) a = some (.insert a) := by
  intro replies ip
  have hlookup : lookupAddresses (answering replies) "printer.local" 0 =
      some ⟨[ip], true, replies⟩ := by
    rw [lookupAddresses, cstring_eq_ok (by decide)]
    decide
  refine (getAddresses_present_iff hlookup).2.mpr ?_
  intro a hdelete
  have hlog : addressLog replies = [.insert ip] := by decide
  have hmem := List.mem_of_getLast? hdelete
  rw [hlog] at hmem
  cases List.mem_singleton.mp (List.mem_filter.mp hmem).1

/-! ## `resolve_service` -/

/-- The daemon, to the operations of a resolver. -/
structure Daemon where
  resolve : ResolveRequest → ResolveAnswer
  getAddrInfo : AddrRequest → AddrAnswer

/-- The event that `resolve_service` sends. -/
def resolveService (display : ServiceBrowseError → String) (daemon : Daemon) (r : Resolve) :
    Event :=
  match doResolve display daemon.resolve r.name r.regtype r.domain r.interface with
  | .error err => .error (.resolveFailed r.name err)
  | .ok (host, port, txtRecords) =>
    .ok (.found {
      name := r.name
      serviceType := trimDot r.regtype
      domain := trimDot r.domain
      hostName := trimDot host
      port := port
      addresses := (getAddresses daemon.getAddrInfo host r.interface).getD []
      txtRecords := txtRecords
      interfaceIndex := NonZeroU32.new r.interface })

/-- **A resolver sends** the service under the identity of the reply that it
resolves, or an error under its name. -/
theorem resolveService_cases (display : ServiceBrowseError → String) (daemon : Daemon)
    (r : Resolve) :
    (∃ service, resolveService display daemon r = .ok (.found service) ∧
      service.identity =
        ⟨r.name, trimDot r.regtype, trimDot r.domain, NonZeroU32.new r.interface⟩) ∨
    ∃ err, resolveService display daemon r = .error (.resolveFailed r.name err) := by
  unfold resolveService
  cases doResolve display daemon.resolve r.name r.regtype r.domain r.interface with
  | error err => exact .inr ⟨err, rfl⟩
  | ok value => exact .inl ⟨_, rfl, rfl⟩

end MdnsSdDiscovery.Macos
