import SorobanDeploy.Artifact

/-!
# What assignments leave

Successive assignments leave nothing but what was assigned (`mem_of_mem_ofList`), each key once
(`distinct_ofList`), and under each key the value of its last assignment (`get?_ofList`). So the IDs
by logical name are those of the last contract of each name (`get?_contractIds`).
-/

namespace SorobanDeploy

namespace Pairs

variable {κ α : Type} [DecidableEq κ]

theorem mem_of_get? {key : κ} {value : α} {pairs : Pairs κ α} (h : get? key pairs = some value) :
    (key, value) ∈ pairs := by
  induction pairs with
  | nil => cases h
  | cons p rest ih =>
    obtain ⟨k, v⟩ := p
    unfold get? at h
    split at h
    · rename_i hk
      rw [hk, Option.some.inj h]
      exact List.mem_cons_self
    · exact List.mem_cons_of_mem _ (ih h)

theorem mem_assign {key : κ} {value : α} {pairs : Pairs κ α} {p : κ × α}
    (h : p ∈ assign key value pairs) : p = (key, value) ∨ p ∈ pairs := by
  induction pairs with
  | nil => exact .inl (List.mem_singleton.1 h)
  | cons q rest ih =>
    obtain ⟨k, v⟩ := q
    unfold assign at h
    split at h
    · rename_i hk
      rcases List.mem_cons.1 h with rfl | hrest
      · exact .inl (by rw [hk])
      · exact .inr (List.mem_cons_of_mem _ hrest)
    · rcases List.mem_cons.1 h with rfl | hrest
      · exact .inr List.mem_cons_self
      · exact (ih hrest).imp_right (List.mem_cons_of_mem _)

/-- What assignments leave was assigned. -/
theorem mem_of_mem_ofList {assignments : List (κ × α)} {p : κ × α}
    (h : p ∈ ofList assignments) : p ∈ assignments := by
  unfold ofList at h
  -- The assignments that are done already are in the pairs that they left.
  suffices hall : ∀ done : Pairs κ α,
      p ∈ assignments.foldl (fun done q => assign q.1 q.2 done) done → p ∈ done ∨ p ∈ assignments
    from (hall [] h).resolve_left List.not_mem_nil
  clear h
  induction assignments with
  | nil => exact fun done h => .inl h
  | cons q rest ih =>
    intro done h
    rcases ih _ h with hdone | hrest
    · rcases mem_assign hdone with rfl | hdone
      · exact .inr List.mem_cons_self
      · exact .inl hdone
    · exact .inr (List.mem_cons_of_mem _ hrest)

/-- No key is there twice. -/
def Distinct (pairs : Pairs κ α) : Prop := pairs.Pairwise fun p q => p.1 ≠ q.1

theorem distinct_assign {pairs : Pairs κ α} (h : Distinct pairs) (key : κ) (value : α) :
    Distinct (assign key value pairs) := by
  induction pairs with
  | nil => exact List.pairwise_singleton _ _
  | cons q rest ih =>
    obtain ⟨hq, hrest⟩ := List.pairwise_cons.1 h
    unfold assign
    split
    · exact List.pairwise_cons.2 ⟨hq, hrest⟩
    · rename_i hne
      refine List.pairwise_cons.2 ⟨fun p hp => ?_, ih hrest⟩
      rcases mem_assign hp with rfl | hp
      · exact hne
      · exact hq p hp

/-- Assignments leave each key once. -/
theorem distinct_ofList (assignments : List (κ × α)) : Distinct (ofList assignments) := by
  suffices h : ∀ done : Pairs κ α, Distinct done →
      Distinct (assignments.foldl (fun done p => assign p.1 p.2 done) done) from h [] .nil
  induction assignments with
  | nil => exact fun done h => h
  | cons p rest ih => exact fun done h => ih _ (distinct_assign h p.1 p.2)

/-- Assignments leave each key with the value of the last one. -/
theorem get?_ofList (key : κ) (assignments : List (κ × α)) :
    get? key (ofList assignments) = get? key assignments.reverse := by
  unfold ofList
  rw [List.foldl_eq_foldr_reverse]
  induction assignments.reverse with
  | nil => rfl
  | cons p rest ih => rw [List.foldr_cons, get?_assign, ih, get?]

/-- A key has its value in the first of two lists that has it. -/
theorem get?_append (key : κ) (ps qs : Pairs κ α) :
    get? key (ps ++ qs) = (get? key ps).or (get? key qs) := by
  induction ps with
  | nil => rfl
  | cons p rest ih =>
    rw [List.cons_append, get?, get?, ih]
    split <;> rfl

theorem get?_eq_none {key : κ} {pairs : Pairs κ α} (h : ∀ p ∈ pairs, p.1 ≠ key) :
    get? key pairs = none := by
  cases hget : get? key pairs with
  | none => rfl
  | some value => exact absurd rfl (h (key, value) (mem_of_get? hget))

/-- Where no key is twice, each pair is what its key has. -/
theorem get?_of_mem {pairs : Pairs κ α} (hdistinct : Distinct pairs) {key : κ} {value : α}
    (h : (key, value) ∈ pairs) : get? key pairs = some value := by
  induction pairs with
  | nil => cases h
  | cons p rest ih =>
    obtain ⟨hp, hrest⟩ := List.pairwise_cons.1 hdistinct
    rw [get?]
    rcases List.mem_cons.1 h with rfl | h
    · exact if_pos rfl
    · rw [if_neg (hp _ h), ih hrest h]

/-- The pairs of a key tell its value. -/
theorem get?_filter (key : κ) (pairs : Pairs κ α) :
    get? key (pairs.filter (·.1 = key)) = get? key pairs := by
  induction pairs with
  | nil => rfl
  | cons p rest ih =>
    rw [get?]
    by_cases hp : p.1 = key
    · rw [List.filter_cons_of_pos (by simpa using hp), get?, if_pos hp, if_pos hp]
    · rw [List.filter_cons_of_neg (by simpa using hp), ih, if_neg hp]

theorem Distinct.reverse {κ α : Type} {pairs : Pairs κ α} (h : Distinct pairs) :
    Distinct pairs.reverse :=
  List.pairwise_reverse.2 (h.imp fun hne => hne.symm)

/-- Where no key is twice, the order decides no value. -/
theorem get?_reverse {pairs : Pairs κ α} (hdistinct : Distinct pairs) (key : κ) :
    get? key pairs.reverse = get? key pairs := by
  cases hget : get? key pairs with
  | some value => exact get?_of_mem hdistinct.reverse (List.mem_reverse.2 (mem_of_get? hget))
  | none =>
    cases hreverse : get? key pairs.reverse with
    | none => rfl
    | some value =>
      have hmem := List.mem_reverse.1 (mem_of_get? hreverse)
      cases hget.symm.trans (get?_of_mem hdistinct hmem)

/-- Values that may be missing are those that are there, where no key is twice. -/
theorem get?_filterMap {pairs : Pairs κ (Option α)} (hdistinct : Distinct pairs) (key : κ) :
    get? key (pairs.filterMap fun p => p.2.map fun v => (p.1, v)) =
      (get? key pairs).join := by
  induction pairs with
  | nil => rfl
  | cons p rest ih =>
    obtain ⟨k, value⟩ := p
    obtain ⟨hp, hrest⟩ := List.pairwise_cons.1 hdistinct
    have hothers : k = key → get? key rest = none := fun hk =>
      get?_eq_none fun q hq heq => hp q hq (hk.trans heq.symm)
    rw [List.filterMap_cons, get?]
    cases value with
    | none =>
      rw [Option.map_none]
      simp only
      rw [ih hrest]
      split
      · rename_i hk
        rw [hothers hk]
        rfl
      · rfl
    | some v =>
      rw [Option.map_some]
      simp only
      rw [get?, ih hrest]
      split <;> rfl

/-- Keys that all have one value have it in every order. -/
theorem get?_map_of_mem {ι : Type} {f : ι → κ} {value : α} {key : κ} {is : List ι}
    (h : ∃ i ∈ is, f i = key) : get? key (is.map fun i => (f i, value)) = some value := by
  induction is with
  | nil =>
    obtain ⟨i, hi, -⟩ := h
    cases hi
  | cons j rest ih =>
    rw [List.map_cons, get?]
    split
    · rfl
    · rename_i hne
      obtain ⟨i, hi, hkey⟩ := h
      rcases List.mem_cons.1 hi with rfl | hi
      · exact absurd hkey hne
      · exact ih ⟨i, hi, hkey⟩

end Pairs

namespace DeployedContract

/-- The ID of the last contract of a logical name. -/
def lastNamed? (cs : List DeployedContract) (name : String) : Option String :=
  contractNamed? cs.reverse name

/-- Read as a map, contracts give the first one of each name. -/
theorem get?_map_contract (cs : List DeployedContract) (name : String) :
    Pairs.get? name (cs.map fun c => (c.logicalName, c.contractId)) = contractNamed? cs name := by
  unfold contractNamed?
  induction cs with
  | nil => rfl
  | cons c rest ih =>
    rw [List.map_cons, Pairs.get?, ih, List.find?_cons]
    by_cases hname : c.logicalName = name <;> simp [hname]

/-- The ID that is recorded under a name is that of the last contract of the name. -/
theorem get?_contractIds (cs : List DeployedContract) (name : String) :
    Pairs.get? name (contractIds cs) = lastNamed? cs name := by
  unfold contractIds lastNamed?
  rw [Pairs.get?_ofList, ← List.map_reverse, get?_map_contract]

/-- Where a first contract of a name is, there is a last one. -/
theorem exists_lastNamed? {cs : List DeployedContract} {name id : String}
    (h : contractNamed? cs name = some id) : ∃ last, lastNamed? cs name = some last := by
  obtain ⟨c, hfind, -⟩ := Option.map_eq_some_iff.1 h
  have hfound : (cs.reverse.find? (·.logicalName = name)).isSome := by
    rw [List.find?_isSome]
    exact ⟨c, List.mem_reverse.2 (List.mem_of_find?_eq_some hfind),
      by simpa using List.find?_some hfind⟩
  obtain ⟨last, hlast⟩ := Option.isSome_iff_exists.1 hfound
  exact ⟨last.contractId, Option.map_eq_some_iff.2 ⟨last, hlast, rfl⟩⟩

/-- If at most one contract has a name, the first one of the name is the last one. -/
theorem lastNamed?_of_once {cs : List DeployedContract} {name : String}
    (h : (cs.filter (·.logicalName = name)).length ≤ 1) :
    lastNamed? cs name = contractNamed? cs name := by
  have hsame : (cs.filter (·.logicalName = name)).reverse = cs.filter (·.logicalName = name) := by
    generalize cs.filter (·.logicalName = name) = named at h
    match named, h with
    | [], _ => rfl
    | [c], _ => rfl
  unfold lastNamed? contractNamed?
  rw [← List.head?_filter, ← List.head?_filter, List.filter_reverse, hsame]

end DeployedContract

end SorobanDeploy
