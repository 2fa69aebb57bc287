import Mathlib.Data.List.Pairwise
import Mathlib.Data.List.Range
import TypedBus.Transport.Domain

namespace TypedBus

/-- An order in which the entries of a table are visited, however many there are. -/
structure Tour where
  places : Nat → List Nat
  perm : ∀ n, (places n).Perm (List.range n)

namespace Tour

variable {α : Type}

def forward : Tour := ⟨List.range, fun _ => .refl _⟩

def backward : Tour := ⟨fun n => (List.range n).reverse, fun _ => List.reverse_perm _⟩

/-- The entries of a table in the order of a tour. -/
def visit (t : Tour) (entries : List α) : List α :=
  (t.places entries.length).filterMap (entries[·]?)

theorem filterMap_getElem?_range (entries : List α) :
    (List.range entries.length).filterMap (entries[·]?) = entries := by
  induction entries with
  | nil => rfl
  | cons entry entries ih =>
    rw [List.length_cons, List.range_succ_eq_map, List.filterMap_cons, List.filterMap_map]
    exact congrArg (entry :: ·) ih

/-- A tour leaves no entry out and visits none twice. -/
theorem visit_perm (t : Tour) (entries : List α) : (t.visit entries).Perm entries := by
  have hplaces := (t.perm entries.length).filterMap (entries[·]?)
  rwa [filterMap_getElem?_range] at hplaces

end Tour

/-- The tours of one action: one of the publishers, and for each channel one of the subscriptions. -/
structure Tours where
  publishers : Tour
  subscriptions : String → Tour

namespace Tours

def forward : Tours := ⟨.forward, fun _ => .forward⟩

def backward : Tours := ⟨.backward, fun _ => .backward⟩

end Tours

section Sorting

variable {α : Type} (le : α → α → Prop) [DecidableRel le]

theorem pairwise_mergeSort_of_le (trans : ∀ a b c, le a b → le b c → le a c)
    (total : ∀ a b, le a b ∨ le b a) (values : List α) :
    (values.mergeSort fun a b => decide (le a b)).Pairwise le := by
  have hmerged : (values.mergeSort fun a b => decide (le a b)).Pairwise
      fun a b => decide (le a b) = true := List.pairwise_mergeSort
    (fun a b c hab hbc => decide_eq_true (trans a b c (of_decide_eq_true hab) (of_decide_eq_true hbc)))
    (fun a b => by simpa using total a b) values
  exact hmerged.imp of_decide_eq_true

/-- In whatever order values are given, they are the same when they are sorted. -/
theorem mergeSort_eq_of_perm (trans : ∀ a b c, le a b → le b c → le a c)
    (total : ∀ a b, le a b ∨ le b a) (antisymm : ∀ a b, le a b → le b a → a = b)
    {values others : List α} (h : values.Perm others) :
    values.mergeSort (fun a b => decide (le a b)) = others.mergeSort (fun a b => decide (le a b)) := by
  have hperm := ((List.mergeSort_perm values fun a b => decide (le a b)).trans h).trans
    (List.mergeSort_perm others fun a b => decide (le a b)).symm
  exact hperm.eq_of_pairwise (fun a b _ _ => antisymm a b)
    (pairwise_mergeSort_of_le le trans total values) (pairwise_mergeSort_of_le le trans total others)

end Sorting

namespace PeerId

theorem eq_of_value_le {a b : PeerId} (hab : a.value ≤ b.value) (hba : b.value ≤ a.value) : a = b := by
  obtain ⟨a⟩ := a
  obtain ⟨b⟩ := b
  exact congrArg PeerId.mk (UInt64.le_antisymm hab hba)

theorem ascending_perm (ids : List PeerId) : (ascending ids).Perm ids :=
  List.mergeSort_perm ids _

theorem ascending_of_perm {ids others : List PeerId} (h : ids.Perm others) :
    ascending ids = ascending others :=
  mergeSort_eq_of_perm (fun a b : PeerId => a.value ≤ b.value) (fun _ _ _ => UInt64.le_trans)
    (fun a b => UInt64.le_total a.value b.value) (fun _ _ => eq_of_value_le) h

/-- Identities that are all different rise strictly when they are sorted, however they were given. -/
theorem ascending_increasing {ids : List PeerId} (h : ids.Nodup) :
    (ascending ids).Pairwise fun a b => a.value < b.value := by
  have hle : (ascending ids).Pairwise fun a b => a.value ≤ b.value :=
    pairwise_mergeSort_of_le (fun a b : PeerId => a.value ≤ b.value) (fun _ _ _ => UInt64.le_trans)
      (fun a b => UInt64.le_total a.value b.value) ids
  have hne : (ascending ids).Nodup := (ascending_perm ids).nodup_iff.mpr h
  refine hle.imp₂ ?_ hne
  intro a b hab hne
  apply UInt64.not_le.mp
  intro hba
  exact hne (eq_of_value_le hab hba)

end PeerId

namespace Endpoints

variable {G : Type}

/-- The subscriptions that receive what is published on a channel, as they are come across. -/
def matchingAlong (t : Tours) (e : Endpoints G) (channel : String) : List Subscription :=
  ((t.subscriptions channel).visit e.subscriptions).filter fun s => Channel.covers s.channel channel

def routesAlong (t : Tours) (e : Endpoints G) (channel : String) : List PeerId :=
  (e.matchingAlong t channel).map (·.id)

def subscribersAlong (t : Tours) (e : Endpoints G) (channel : String) : List PeerId :=
  PeerId.ascending (e.routesAlong t channel)

theorem matchingAlong_perm (t : Tours) (e : Endpoints G) (channel : String) :
    (e.matchingAlong t channel).Perm (e.matching channel) :=
  ((t.subscriptions channel).visit_perm e.subscriptions).filter _

theorem routesAlong_perm (t : Tours) (e : Endpoints G) (channel : String) :
    (e.routesAlong t channel).Perm (e.routes channel) :=
  (matchingAlong_perm t e channel).map _

theorem subscribersAlong_eq (t : Tours) (e : Endpoints G) (channel : String) :
    e.subscribersAlong t channel = e.subscribersOf channel :=
  PeerId.ascending_of_perm (routesAlong_perm t e channel)

theorem subscribersAlong_perm (t : Tours) (e : Endpoints G) (channel : String) :
    (e.subscribersAlong t channel).Perm (e.routes channel) :=
  (PeerId.ascending_perm _).trans (routesAlong_perm t e channel)

theorem subscribersAlong_increasing {e : Endpoints G} {channel : String}
    (h : (e.routes channel).Nodup) (t : Tours) :
    (e.subscribersAlong t channel).Pairwise fun a b => a.value < b.value :=
  PeerId.ascending_increasing ((routesAlong_perm t e channel).nodup_iff.mpr h)

end Endpoints

namespace Domain

variable {G : Type}

/-- The subscribers of a publisher, collected along a tour and sorted. -/
def subscribersAlong (t : Tours) (d : Domain G) (publisher : PeerId) : List PeerId :=
  match d.channelOf? publisher, d.read with
  | some channel, .ok e => e.subscribersAlong t channel
  | _, _ => []

theorem subscribersAlong_eq (t : Tours) (d : Domain G) (publisher : PeerId) :
    d.subscribersAlong t publisher = d.subscribersOf publisher := by
  cases hc : d.channelOf? publisher <;> cases hr : d.read <;>
    simp only [subscribersAlong, subscribersOf, hc, hr, Endpoints.subscribersAlong_eq]

end Domain

end TypedBus
