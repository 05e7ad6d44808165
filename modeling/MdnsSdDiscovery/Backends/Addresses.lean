import Mathlib.Tactic.IntervalCases
import MdnsSdDiscovery.Lib.IpText
import MdnsSdDiscovery.Linux.Browse
import MdnsSdDiscovery.Macos.Resolve
import MdnsSdDiscovery.Windows.Resolve

/-!
# Addresses on the three back-ends

Avahi writes an address as a text, macOS hands over a `sockaddr`, and a Windows
instance points to a number and to octets.  The bytes of the two numbers are in the
order of the network, and the machine is a little-endian one.

* `addresses_resolvedToService`, `getAddresses_told`, `addresses_buildService`: what each
  of them reads;
* `socketAddrs_told`: a consumer connects to the addresses that were told, and no others.
-/

namespace MdnsSdDiscovery

/-- `DiscoveredService::socket_addrs` -/
def DiscoveredService.socketAddrs (service : DiscoveredService) : List (IpAddr × UInt16) :=
  service.addresses.map fun ip => (ip, service.port)

end MdnsSdDiscovery

namespace MdnsSdDiscovery.Backends

open IpAddr
open Linux (ResolvedService resolvedToService)
open Macos (AddrAnswer AddrReply AddrRequest SockAddr addressLoop getAddresses lookupAddresses
  noError resolveService sockaddrToIp)
open Windows (DnsServiceInstance buildService)

/-- An address as the records of DNS carry it. -/
inductive NetAddr where
  | inet (octets : Vector UInt8 4)
  | inet6 (octets : Vector UInt8 16)
  deriving DecidableEq, Repr

theorem high_lt (i : Fin 8) : 2 * i.val < 16 := by
  omega

theorem low_lt (i : Fin 8) : 2 * i.val + 1 < 16 := by
  omega

/-- Two octets are one group, the first of them the higher. -/
def NetAddr.ip : NetAddr → IpAddr
  | .inet octets => .v4 octets
  | .inet6 octets => .v6 (Vector.ofFn fun i : Fin 8 =>
      .ofNat (256 * (octets.get ⟨2 * i.val, high_lt i⟩).toNat +
        (octets.get ⟨2 * i.val + 1, low_lt i⟩).toNat))

/-- The bytes of a number in the memory of a little-endian machine. -/
def memory (raw : UInt32) : Vector UInt8 4 :=
  #v[raw.toUInt8, (raw >>> 8).toUInt8, (raw >>> 16).toUInt8, (raw >>> 24).toUInt8]

/-! ## Numbers and octets -/

theorem group_toNat (a b : UInt8) :
    (UInt16.ofNat (256 * a.toNat + b.toNat)).toNat = 256 * a.toNat + b.toNat := by
  have ha := a.toNat_lt
  have hb := b.toNat_lt
  rw [UInt16.toNat_ofNat']
  exact Nat.mod_eq_of_lt (by omega)

theorem group_inj {a b a' b' : UInt8}
    (h : UInt16.ofNat (256 * a.toNat + b.toNat) = UInt16.ofNat (256 * a'.toNat + b'.toNat)) :
    a = a' ∧ b = b' := by
  have hvalue := congrArg UInt16.toNat h
  rw [group_toNat, group_toNat] at hvalue
  have hb := b.toNat_lt
  have hb' := b'.toNat_lt
  exact ⟨UInt8.toNat_inj.mp (by omega), UInt8.toNat_inj.mp (by omega)⟩

theorem group_or (a b : UInt8) :
    a.toUInt16 <<< 8 ||| b.toUInt16 = UInt16.ofNat (256 * a.toNat + b.toNat) := by
  have ha := a.toNat_lt
  have hb := b.toNat_lt
  have hshift : a.toNat <<< 8 = 256 * a.toNat := by
    rw [Nat.shiftLeft_eq, Nat.mul_comm]
  have hor : (256 * a.toNat) ||| b.toNat = 256 * a.toNat + b.toNat := by
    rw [← hshift]
    exact (Nat.shiftLeft_add_eq_or_of_lt hb a.toNat).symm
  apply UInt16.toNat_inj.mp
  rw [group_toNat, UInt16.toNat_or, UInt16.toNat_shiftLeft, UInt8.toNat_toUInt16,
    UInt8.toNat_toUInt16]
  change a.toNat <<< 8 % 2 ^ 16 ||| b.toNat = _
  rw [hshift, Nat.mod_eq_of_lt (by omega), hor]

/-- The groups determine the octets. -/
theorem inet6_inj {o o' : Vector UInt8 16}
    (h : (NetAddr.inet6 o).ip = (NetAddr.inet6 o').ip) : o = o' := by
  have hpair : ∀ j, (hj : j < 8) → o[2 * j] = o'[2 * j] ∧ o[2 * j + 1] = o'[2 * j + 1] := by
    intro j hj
    have hgroup := congrArg (fun v : Vector UInt16 8 => v[j]) (IpAddr.v6.inj h)
    simp only [Vector.getElem_ofFn] at hgroup
    exact group_inj hgroup
  refine Vector.ext fun k hk => ?_
  obtain ⟨j, rfl | rfl⟩ := Nat.even_or_odd' k
  · exact (hpair j (by omega)).1
  · exact (hpair j (by omega)).2

/-- No two addresses are read as the same one. -/
theorem NetAddr.ip_injective : Function.Injective NetAddr.ip := by
  intro x y h
  cases x with
  | inet o =>
    cases y with
    | inet o' =>
      cases h
      rfl
    | inet6 => cases h
  | inet6 o =>
    cases y with
    | inet => cases h
    | inet6 o' => rw [inet6_inj h]

theorem ipv6FromOctets_eq (octets : Vector UInt8 16) :
    ipv6FromOctets octets = (NetAddr.inet6 octets).ip := by
  refine congrArg IpAddr.v6 (Vector.ext fun k hk => ?_)
  simp only [Vector.getElem_ofFn, group_or]
  rfl

/-- `u32::from_be` puts the octets in reverse. -/
theorem getLsbD_fromBe (raw : UInt32) {i : Nat} (hi : i < 32) :
    (fromBe raw).toBitVec.getLsbD i = raw.toBitVec.getLsbD (8 * (3 - i / 8) + i % 8) := by
  interval_cases i <;> simp [fromBe]

theorem octet_fromBe (raw : UInt32) {k : Nat} (hk : k < 4) :
    (fromBe raw >>> .ofNat (8 * k)).toUInt8 = (raw >>> .ofNat (8 * (3 - k))).toUInt8 := by
  have hshift : ∀ j ≤ 3, 8 * j % 4294967296 % 32 = 8 * j := by
    intro j hj
    omega
  apply UInt8.toBitVec_inj.mp
  apply BitVec.eq_of_getLsbD_eq
  intro i hi
  have hindex : 8 * k + i < 32 := by omega
  have hdiv : (8 * k + i) / 8 = k := by omega
  have hmod : (8 * k + i) % 8 = i := by omega
  simp only [UInt32.toBitVec_toUInt8, BitVec.getLsbD_setWidth, UInt32.toBitVec_shiftRight,
    BitVec.getLsbD_ushiftRight, BitVec.ushiftRight_eq']
  simp [hshift k (by omega), hshift (3 - k) (by omega), getLsbD_fromBe raw hindex, hdiv, hmod]

/-- The octets of a number in network order are its bytes in memory. -/
theorem ipv4FromU32_fromBe (raw : UInt32) :
    ipv4FromU32 (fromBe raw) = (NetAddr.inet (memory raw)).ip := by
  have hzero : ∀ x : UInt32, x >>> .ofNat 0 = x := fun x => UInt32.shiftRight_zero
  have first : (fromBe raw >>> 24).toUInt8 = raw.toUInt8 := by
    have h := octet_fromBe raw (k := 3) (by decide)
    rwa [Nat.sub_self, Nat.mul_zero, hzero raw] at h
  have second : (fromBe raw >>> 16).toUInt8 = (raw >>> 8).toUInt8 :=
    octet_fromBe raw (k := 2) (by decide)
  have third : (fromBe raw >>> 8).toUInt8 = (raw >>> 16).toUInt8 :=
    octet_fromBe raw (k := 1) (by decide)
  have fourth : (fromBe raw).toUInt8 = (raw >>> 24).toUInt8 := by
    have h := octet_fromBe raw (k := 0) (by decide)
    rwa [Nat.mul_zero, hzero (fromBe raw)] at h
  change IpAddr.v4 #v[(fromBe raw >>> 24).toUInt8, (fromBe raw >>> 16).toUInt8,
    (fromBe raw >>> 8).toUInt8, (fromBe raw).toUInt8] = IpAddr.v4 (memory raw)
  simp only [memory, first, second, third, fourth]

/-! ## What a back-end is told -/

/-- The address in a `sockaddr`. -/
def SockAddr.reported : SockAddr → Option NetAddr
  | .inet raw => some (.inet (memory raw))
  | .inet6 octets => some (.inet6 octets)
  | .other _ => none

/-- The addresses of an instance: at most one of each kind. -/
def DnsServiceInstance.reported (inst : DnsServiceInstance) : List NetAddr :=
  (inst.ip4Address.map fun raw => .inet (memory raw)).toList ++
    (inst.ip6Address.map .inet6).toList

theorem sockaddrToIp_eq (sock : SockAddr) :
    sockaddrToIp sock = (SockAddr.reported sock).map NetAddr.ip := by
  cases sock with
  | inet raw => exact congrArg some (ipv4FromU32_fromBe raw)
  | inet6 octets => exact congrArg some (ipv6FromOctets_eq octets)
  | other => rfl

theorem addresses_buildService (inst : DnsServiceInstance) (name serviceType domain : String) :
    (buildService inst name serviceType domain).addresses =
      (DnsServiceInstance.reported inst).map NetAddr.ip := by
  have hv6 : ipv6FromOctets = fun octets => (NetAddr.inet6 octets).ip :=
    funext ipv6FromOctets_eq
  simp only [buildService, DnsServiceInstance.reported, List.map_append, ipv4FromU32_fromBe, hv6]
  cases inst.ip4Address <;> cases inst.ip6Address <;> rfl

/-- What a reply adds, whatever its flags say. -/
def AddrReply.reported (reply : AddrReply) : Option NetAddr :=
  if reply.errorCode = noError then reply.address.bind SockAddr.reported else none

/-- What the replies of a lookup add, as far as they are dispatched. -/
def told (daemon : AddrRequest → AddrAnswer) (host : String) (interface : UInt32) :
    List NetAddr :=
  ((lookupAddresses daemon host interface).map fun result =>
    result.delivered.filterMap AddrReply.reported).getD []

theorem change_key (reply : AddrReply) :
    reply.change?.map Presence.Change.key = (AddrReply.reported reply).map NetAddr.ip := by
  unfold AddrReply.change? AddrReply.reported
  split
  · cases reply.address with
    | none => rfl
    | some sock =>
      rw [Option.bind_some, Option.bind_some, sockaddrToIp_eq]
      cases SockAddr.reported sock with
      | none => rfl
      | some addr =>
        rw [Option.map_some, Option.map_some, Option.map_some]
        split <;> rfl
  · rfl

theorem getAddresses_told (daemon : AddrRequest → AddrAnswer) (host : String)
    (interface : UInt32) :
    (getAddresses daemon host interface).getD [] = (told daemon host interface).map NetAddr.ip := by
  have hcollected : ∀ turns, (addressLoop {} turns).addrs =
      ((addressLoop {} turns).delivered.filterMap AddrReply.reported).map NetAddr.ip := by
    intro turns
    have hnew : Macos.Collected {} := rfl
    have hkeys := hnew.addressLoop turns
    rw [Macos.Collected, Macos.addressLog, List.map_filterMap] at hkeys
    rw [hkeys, List.map_filterMap]
    exact congrArg (fun f => List.filterMap f _) (funext change_key)
  unfold getAddresses told lookupAddresses
  cases Macos.cstring host with
  | error err => rfl
  | ok hostC =>
    dsimp only
    split
    · rfl
    · exact hcollected _

theorem addresses_resolvedToService (resolved : ResolvedService) (ip : IpAddr) :
    (resolvedToService resolved).addresses = [ip] ↔ Spells resolved.address.toList ip := by
  rw [← fromStr_iff]
  change (fromStr resolved.address).toList = [ip] ↔ _
  cases fromStr resolved.address <;> simp

theorem no_addresses_resolvedToService (resolved : ResolvedService) :
    (resolvedToService resolved).addresses = [] ↔ ∀ ip, ¬ Spells resolved.address.toList ip := by
  change (fromStr resolved.address).toList = [] ↔ _
  simp only [← fromStr_iff]
  cases fromStr resolved.address <;> simp

theorem socketAddrs_eq (service : DiscoveredService) (l : List IpAddr) (port : UInt16)
    (hport : service.port = port) :
    service.socketAddrs = l.map (·, port) ↔ service.addresses = l := by
  subst hport
  have hinj : Function.Injective fun ip : IpAddr => (ip, service.port) := by
    intro x y h
    exact (Prod.mk.inj h).1
  exact (List.map_injective_iff.mpr hinj).eq_iff

/-- **A consumer connects to the addresses that the system told**, and only to those:
the one that Avahi spells, those of the replies of macOS in their order, and those of the
instance on Windows. -/
theorem socketAddrs_told :
    (∀ resolved : ResolvedService,
      (∀ ip, (resolvedToService resolved).socketAddrs = [(ip, resolved.port)] ↔
        Spells resolved.address.toList ip) ∧
      ((resolvedToService resolved).socketAddrs = [] ↔
        ∀ ip, ¬ Spells resolved.address.toList ip)) ∧
    (∀ (display : ServiceBrowseError → String) (daemon : Macos.Daemon) (r : Macos.Resolve)
        (service : DiscoveredService),
      resolveService display daemon r = .ok (.found service) →
        ∃ host port txtRecords,
          Macos.doResolve display daemon.resolve r.name r.regtype r.domain r.interface =
            .ok (host, port, txtRecords) ∧
          service.socketAddrs =
            (told daemon.getAddrInfo host r.interface).map fun addr => (addr.ip, port)) ∧
    (∀ (inst : DnsServiceInstance) (name serviceType domain : String),
      (buildService inst name serviceType domain).socketAddrs =
        (DnsServiceInstance.reported inst).map fun addr => (addr.ip, inst.wPort)) ∧
    Function.Injective NetAddr.ip := by
  refine ⟨?_, ?_, ?_, NetAddr.ip_injective⟩
  · intro resolved
    refine ⟨fun ip => ?_, ?_⟩
    · rw [← addresses_resolvedToService]
      exact socketAddrs_eq _ [ip] _ rfl
    · rw [← no_addresses_resolvedToService]
      exact List.map_eq_nil_iff
  · intro display daemon r service h
    unfold resolveService at h
    split at h
    · cases h
    next host port txtRecords hresolve =>
      cases h
      refine ⟨host, port, txtRecords, hresolve, ?_⟩
      rw [DiscoveredService.socketAddrs, getAddresses_told, List.map_map]
      rfl
  · intro inst name serviceType domain
    rw [DiscoveredService.socketAddrs, addresses_buildService, List.map_map]
    rfl

/-- 192.168.1.10 as a number and as a text. -/
example : ipv4FromU32 (fromBe 0x0A01A8C0) = (NetAddr.inet #v[192, 168, 1, 10]).ip ∧
    fromStr "192.168.1.10" = some (NetAddr.inet #v[192, 168, 1, 10]).ip := by
  decide

/-- A printer whose host has the address 192.168.1.10. -/
def printerDaemon : Macos.Daemon :=
  ⟨Macos.replying [Macos.printerReply 0 none], Macos.answering [Macos.hostReply Macos.flagsAdd]⟩

theorem socketAddrs_told_example :
    ∃ service host port,
      resolveService (fun _ => "") printerDaemon ⟨"Printer", "_ipp._tcp.", "local.", 2⟩ =
        .ok (.found service) ∧
      service.socketAddrs =
        (told printerDaemon.getAddrInfo host 2).map fun addr => (addr.ip, port) := by
  have hok : (resolveService (fun _ => "") printerDaemon
      ⟨"Printer", "_ipp._tcp.", "local.", 2⟩).isOk = true := by
    decide +kernel
  rcases Macos.resolveService_cases (fun _ => "") printerDaemon
      ⟨"Printer", "_ipp._tcp.", "local.", 2⟩ with ⟨service, h, -⟩ | ⟨err, h⟩
  · obtain ⟨-, hmacos, -, -⟩ := socketAddrs_told
    obtain ⟨host, port, -, -, hsocket⟩ := hmacos (fun _ => "") printerDaemon _ service h
    exact ⟨service, host, port, h, hsocket⟩
  · rw [h] at hok
    cases hok

end MdnsSdDiscovery.Backends
