import Mathlib.Data.List.Nodup
import WireModel.Json.Basic

/-!
Searching lists whose items can be told apart: what is there is found, and what is bound is behind
all that was bound before.
-/

namespace WireModel

namespace Search

variable {α β κ : Type}

theorem find?_unique {items : List α} {test : α → Bool} {item : α} (member : item ∈ items)
    (holds : test item = true) (only : ∀ other ∈ items, test other = true → other = item) :
    items.find? test = some item := by
  rcases found : items.find? test with _ | other
  · exact absurd holds (by simpa using List.find?_eq_none.mp found item member)
  · rw [only other (List.mem_of_find?_eq_some found) (List.find?_some found)]

theorem eq_of_key {items : List α} {key : α → κ} (distinct : (items.map key).Nodup) {item other : α}
    (member : item ∈ items) (otherMember : other ∈ items) (same : key other = key item) :
    other = item :=
  List.inj_on_of_nodup_map distinct otherMember member same

theorem lookup_of_mem [BEq κ] [LawfulBEq κ] {entries : List (κ × α)}
    (distinct : (entries.map Prod.fst).Nodup) {key : κ} {value : α}
    (member : (key, value) ∈ entries) : entries.lookup key = some value := by
  induction entries with
  | nil => cases member
  | cons entry rest ih =>
    obtain ⟨absent, others⟩ := List.nodup_cons.mp distinct
    rcases List.mem_cons.mp member with rfl | later
    · exact List.lookup_cons_self
    · have differ : (key == entry.1) = false := by
        rw [beq_eq_false_iff_ne]
        rintro rfl
        exact absent (List.mem_map.mpr ⟨_, later, rfl⟩)
      rw [List.lookup_cons, differ]
      exact ih others later

theorem lookup_reverse_of_mem [BEq κ] [LawfulBEq κ] {entries : List (κ × α)}
    (distinct : (entries.map Prod.fst).Nodup) {key : κ} {value : α}
    (member : (key, value) ∈ entries) : entries.reverse.lookup key = some value := by
  apply lookup_of_mem
  · rw [List.map_reverse]
    exact List.nodup_reverse.mpr distinct
  · exact List.mem_reverse.mpr member

theorem mem_of_lookup [BEq κ] [LawfulBEq κ] {entries : List (κ × α)} {key : κ} {value : α}
    (found : entries.lookup key = some value) : (key, value) ∈ entries := by
  obtain ⟨before, behind, rfl, -⟩ := List.lookup_eq_some_iff.mp found
  exact List.mem_append_right before (List.mem_cons_self ..)

private theorem foldl_bindEntry_onto {known entries : List (String × α)}
    (distinct : ((known ++ entries).map Prod.fst).Nodup) :
    entries.foldl (fun known entry => bindEntry known entry.1 entry.2) known =
      known ++ entries := by
  induction entries generalizing known with
  | nil => simp
  | cons entry rest ih =>
    have fresh : bindEntry known entry.1 entry.2 = known ++ [entry] := by
      rw [bindEntry, if_neg]
      intro bound
      obtain ⟨other, member, same⟩ := List.any_eq_true.mp bound
      rw [List.map_append, List.nodup_append] at distinct
      exact distinct.2.2 _ (List.mem_map_of_mem member) _ (by simp) (beq_iff_eq.mp same)
    rw [List.foldl_cons, fresh, ih (by simpa using distinct)]
    simp

/-- Entries with keys of their own are bound one behind the other. -/
theorem foldl_bindEntry {entries : List (String × α)} (distinct : (entries.map Prod.fst).Nodup) :
    entries.foldl (fun known entry => bindEntry known entry.1 entry.2) [] = entries :=
  foldl_bindEntry_onto distinct

theorem lookup_entry {entry : String × α} {rest : List (String × α)} {name : String} :
    (entry :: rest).lookup name = if name = entry.1 then some entry.2 else rest.lookup name := by
  rw [List.lookup_cons]
  by_cases same : name = entry.1
  · rw [if_pos same, beq_iff_eq.mpr same]
  · rw [if_neg same, beq_eq_false_iff_ne.mpr same]

/-- What is bound to a key is found there, and elsewhere all is found as before. -/
theorem lookup_bindEntry {known : List (String × α)} {key name : String} {value : α} :
    (bindEntry known key value).lookup name =
      if name = key then some value else known.lookup name := by
  have kept :
      (known.map fun entry => if entry.1 == key then (entry.1, value) else entry).lookup name =
      (known.lookup name).map fun old => if name = key then value else old := by
    induction known with
    | nil => rfl
    | cons entry rest ih =>
      have keyed : (if entry.1 == key then (entry.1, value) else entry) =
          (entry.1, if entry.1 = key then value else entry.2) := by
        by_cases bound : entry.1 = key <;> simp [bound]
      rw [List.map_cons, keyed, lookup_entry, lookup_entry, ih]
      by_cases same : name = entry.1
      · rw [if_pos same, if_pos same, Option.map_some, same]
      · rw [if_neg same, if_neg same]
  have absent : known.lookup key = none ↔ ¬ known.any (·.1 == key) = true := by
    rw [List.lookup_eq_none_iff, Bool.not_eq_true, List.any_eq_false]
    refine forall₂_congr fun entry _ => ?_
    rw [bne_iff_ne, beq_iff_eq, ne_comm]
  rw [bindEntry]
  split
  · next bound =>
    rw [kept]
    by_cases same : name = key
    · subst same
      cases found : known.lookup name with
      | none => exact absurd bound (absent.mp found)
      | some old => simp
    · simp [same]
  · next fresh =>
    rw [List.lookup_append, lookup_entry, List.lookup_nil]
    by_cases same : name = key
    · simp [same, absent.mpr fresh]
    · simp [same]

/-- Of what is bound under one name the last counts. -/
theorem lookup_foldl_bindEntry {known entries : List (String × α)} {name : String} :
    (entries.foldl (fun known entry => bindEntry known entry.1 entry.2) known).lookup name =
      (entries.reverse.lookup name).or (known.lookup name) := by
  induction entries generalizing known with
  | nil => rfl
  | cons entry rest ih =>
    rw [List.foldl_cons, ih, lookup_bindEntry, List.reverse_cons, List.lookup_append,
      Option.or_assoc, lookup_entry, List.lookup_nil]
    split <;> simp

variable {R : α → β → Prop} {entries : List (String × α)} {others : List (String × β)}
    {name : String}

/-- Lists with the same keys have related values at them. -/
theorem lookup_related
    (related : List.Forall₂ (fun entry other => other.1 = entry.1 ∧
      R entry.2 other.2) entries others)
    {value : α} (found : entries.lookup name = some value) :
    ∃ other, others.lookup name = some other ∧ R value other := by
  induction related with
  | nil => cases found
  | cons first _ ih =>
    rw [lookup_entry] at found ⊢
    rw [first.1]
    split at found
    · next same =>
      cases found
      exact ⟨_, if_pos same, first.2⟩
    · next differ => simpa only [if_neg differ] using ih found

theorem lookup_related_none
    (related : List.Forall₂ (fun entry other => other.1 = entry.1 ∧
      R entry.2 other.2) entries others)
    (absent : entries.lookup name = none) : others.lookup name = none := by
  induction related with
  | nil => rfl
  | cons first _ ih =>
    rw [lookup_entry] at absent ⊢
    rw [first.1]
    split at absent
    · cases absent
    · next differ => rw [if_neg differ, ih absent]

end Search

end WireModel
