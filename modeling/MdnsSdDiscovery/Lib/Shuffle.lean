import Mathlib.Data.List.Basic

/-!
# Two senders on one channel

`Shuffle xs ys zs` says that a channel may read `zs` when one sender sends `xs`
and the other `ys`, each in its own order.

* `Shuffle.perm`: nothing is lost and nothing is doubled;
* `Shuffle.append_left`, `Shuffle.append_right`: one of the senders goes on;
* `Shuffle.filter`, `Shuffle.filterMap`: what a reader selects from the channel
  is a shuffle of what it would select from each sender;
* `Shuffle.eq_left`, `Shuffle.eq_right`: beside a silent sender the other is
  heard as it is.
-/

namespace MdnsSdDiscovery.Shuffles

variable {α β : Type*}

inductive Shuffle : List α → List α → List α → Prop
  | nil : Shuffle [] [] []
  | left {xs ys zs : List α} (x : α) (h : Shuffle xs ys zs) : Shuffle (x :: xs) ys (x :: zs)
  | right {xs ys zs : List α} (y : α) (h : Shuffle xs ys zs) : Shuffle xs (y :: ys) (y :: zs)

variable {xs ys zs : List α}

theorem Shuffle.perm (h : Shuffle xs ys zs) : zs.Perm (xs ++ ys) := by
  induction h with
  | nil => exact .refl _
  | left x h ih => exact ih.cons x
  | right y h ih => exact (ih.cons y).trans List.perm_middle.symm

/-- One of the senders goes on. -/
theorem Shuffle.append_left (h : Shuffle xs ys zs) (ws : List α) :
    Shuffle (xs ++ ws) ys (zs ++ ws) := by
  induction h with
  | nil =>
    induction ws with
    | nil => exact .nil
    | cons w ws ih => exact ih.left w
  | left x h ih => exact ih.left x
  | right y h ih => exact ih.right y

theorem Shuffle.append_right (h : Shuffle xs ys zs) (ws : List α) :
    Shuffle xs (ys ++ ws) (zs ++ ws) := by
  induction h with
  | nil =>
    induction ws with
    | nil => exact .nil
    | cons w ws ih => exact ih.right w
  | left x h ih => exact ih.left x
  | right y h ih => exact ih.right y

theorem Shuffle.filterMap (h : Shuffle xs ys zs) (f : α → Option β) :
    Shuffle (xs.filterMap f) (ys.filterMap f) (zs.filterMap f) := by
  induction h with
  | nil => exact .nil
  | left x h ih =>
    rw [List.filterMap_cons, List.filterMap_cons]
    cases f x with
    | none => exact ih
    | some b => exact ih.left b
  | right y h ih =>
    rw [List.filterMap_cons, List.filterMap_cons]
    cases f y with
    | none => exact ih
    | some b => exact ih.right b

theorem Shuffle.filter (h : Shuffle xs ys zs) (p : α → Bool) :
    Shuffle (xs.filter p) (ys.filter p) (zs.filter p) := by
  have hmap := h.filterMap (Option.guard p)
  rwa [List.filterMap_eq_filter] at hmap

theorem Shuffle.eq_left (h : Shuffle xs [] zs) : zs = xs := by
  generalize hnil : ([] : List α) = ys at h
  induction h with
  | nil => rfl
  | left x h ih => rw [ih hnil]
  | right y h ih => cases hnil

theorem Shuffle.eq_right (h : Shuffle [] ys zs) : zs = ys := by
  generalize hnil : ([] : List α) = xs at h
  induction h with
  | nil => rfl
  | left x h ih => cases hnil
  | right y h ih => rw [ih hnil]

end MdnsSdDiscovery.Shuffles
