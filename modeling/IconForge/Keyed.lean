/-!
Contract: lists of values under keys, in which a key keeps its place.

Owns: putting a value under a key, looking one up, and how the two go together.
-/

namespace IconForge.Keyed

/-- The list with `value` under `key`: in the place of the key's entry if there
is one, and at the end otherwise. -/
def upsert {κ ν : Type} [DecidableEq κ] (key : κ) (value : ν) : List (κ × ν) → List (κ × ν)
  | [] => [(key, value)]
  | entry :: rest =>
    if entry.1 = key then (key, value) :: rest else entry :: upsert key value rest

def get? {κ ν : Type} [DecidableEq κ] (key : κ) : List (κ × ν) → Option ν
  | [] => none
  | entry :: rest => if entry.1 = key then some entry.2 else get? key rest

theorem map_fst_upsert {κ ν : Type} [DecidableEq κ] (key : κ) (value : ν)
    (entries : List (κ × ν)) :
    (upsert key value entries).map Prod.fst =
      if key ∈ entries.map Prod.fst then entries.map Prod.fst
      else entries.map Prod.fst ++ [key] := by
  induction entries with
  | nil => simp [upsert]
  | cons entry rest inductionHypothesis =>
    by_cases isKey : entry.1 = key
    · simp [upsert, isKey]
    · have notHead : ¬key = entry.1 := fun equal => isKey equal.symm
      simp only [upsert, isKey, if_false, List.map_cons, inductionHypothesis, List.mem_cons,
        notHead, false_or]
      split <;> simp

theorem nodup_map_fst_upsert {κ ν : Type} [DecidableEq κ] {key : κ} {value : ν}
    {entries : List (κ × ν)} (distinct : (entries.map Prod.fst).Nodup) :
    ((upsert key value entries).map Prod.fst).Nodup := by
  rw [map_fst_upsert]
  split
  · exact distinct
  · next absent =>
    rw [List.nodup_append]
    refine ⟨distinct, by simp, ?_⟩
    intro first member second single
    simp only [List.mem_singleton] at single
    subst single
    exact fun equal => absent (equal ▸ member)

theorem upsert_of_notMem {κ ν : Type} [DecidableEq κ] {key : κ} {value : ν}
    {entries : List (κ × ν)} (absent : key ∉ entries.map Prod.fst) :
    upsert key value entries = entries ++ [(key, value)] := by
  induction entries with
  | nil => rfl
  | cons entry rest inductionHypothesis =>
    rw [List.map_cons, List.mem_cons, not_or] at absent
    rw [upsert, if_neg (fun equal => absent.1 equal.symm), inductionHypothesis absent.2]
    rfl

/-- Values under new keys are put behind those that are there, in order. -/
theorem foldl_upsert_of_nodup {κ ν : Type} [DecidableEq κ] {entries pairs : List (κ × ν)}
    (distinct : ((entries ++ pairs).map Prod.fst).Nodup) :
    pairs.foldl (fun entries pair => upsert pair.1 pair.2 entries) entries = entries ++ pairs := by
  induction pairs generalizing entries with
  | nil => exact (List.append_nil _).symm
  | cons pair rest inductionHypothesis =>
    have absent : pair.1 ∉ entries.map Prod.fst := by
      rw [List.map_append, List.nodup_append] at distinct
      intro present
      exact distinct.2.2 _ present _ List.mem_cons_self rfl
    have inserted : upsert pair.1 pair.2 entries = entries ++ [pair] := upsert_of_notMem absent
    rw [List.foldl_cons, inserted]
    rw [List.append_cons] at distinct
    rw [inductionHypothesis distinct, List.append_assoc]
    rfl

theorem get?_upsert {κ ν : Type} [DecidableEq κ] (key wanted : κ) (value : ν)
    (entries : List (κ × ν)) :
    get? wanted (upsert key value entries) =
      if wanted = key then some value else get? wanted entries := by
  induction entries with
  | nil =>
    by_cases isKey : wanted = key
    · simp [upsert, get?, isKey]
    · have notPresent : ¬key = wanted := fun equal => isKey equal.symm
      simp [upsert, get?, isKey, notPresent]
  | cons entry rest inductionHypothesis =>
    obtain ⟨present, old⟩ := entry
    by_cases isPresent : present = key
    · subst isPresent
      by_cases isKey : wanted = present
      · simp [upsert, get?, isKey]
      · have notPresent : ¬present = wanted := fun equal => isKey equal.symm
        simp [upsert, get?, isKey, notPresent]
    · simp only [upsert, isPresent, if_false, get?, inductionHypothesis]
      by_cases isWanted : present = wanted
      · have notKey : ¬wanted = key := fun equal => isPresent (isWanted.trans equal)
        simp [isWanted, notKey]
      · simp [isWanted]

theorem mem_upsert {κ ν : Type} [DecidableEq κ] {key : κ} {value : ν} {entries : List (κ × ν)}
    {entry : κ × ν} (member : entry ∈ upsert key value entries) :
    entry = (key, value) ∨ entry ∈ entries := by
  induction entries with
  | nil => exact Or.inl (List.mem_singleton.mp member)
  | cons head rest inductionHypothesis =>
    rw [upsert] at member
    split at member
    · rcases List.mem_cons.mp member with isNew | isOld
      · exact Or.inl isNew
      · exact Or.inr (List.mem_cons_of_mem _ isOld)
    · rcases List.mem_cons.mp member with isHead | isLater
      · exact Or.inr (isHead ▸ List.mem_cons_self)
      · rcases inductionHypothesis isLater with isNew | isOld
        · exact Or.inl isNew
        · exact Or.inr (List.mem_cons_of_mem _ isOld)

theorem mem_upsert_of_ne {κ ν : Type} [DecidableEq κ] {key : κ} {value : ν}
    {entries : List (κ × ν)} {entry : κ × ν} (member : entry ∈ entries)
    (otherKey : entry.1 ≠ key) : entry ∈ upsert key value entries := by
  induction entries with
  | nil => simp at member
  | cons head rest inductionHypothesis =>
    rw [upsert]
    split
    · next isKey =>
      rcases List.mem_cons.mp member with isHead | isLater
      · exact absurd (isHead ▸ isKey) otherKey
      · exact List.mem_cons_of_mem _ isLater
    · rcases List.mem_cons.mp member with isHead | isLater
      · exact isHead ▸ List.mem_cons_self
      · exact List.mem_cons_of_mem _ (inductionHypothesis isLater)

theorem mem_upsert_self {κ ν : Type} [DecidableEq κ] (key : κ) (value : ν)
    (entries : List (κ × ν)) : (key, value) ∈ upsert key value entries := by
  induction entries with
  | nil => exact List.mem_singleton_self _
  | cons entry rest inductionHypothesis =>
    rw [upsert]
    split
    · exact List.mem_cons_self
    · exact List.mem_cons_of_mem _ inductionHypothesis

theorem mem_of_get? {κ ν : Type} [DecidableEq κ] {key : κ} {value : ν}
    {entries : List (κ × ν)} (found : get? key entries = some value) :
    (key, value) ∈ entries := by
  induction entries with
  | nil => simp [get?] at found
  | cons entry rest inductionHypothesis =>
    obtain ⟨present, held⟩ := entry
    rw [get?] at found
    split at found
    · next same =>
      simp only [Option.some.injEq] at found
      subst same found
      exact List.mem_cons_self
    · exact List.mem_cons_of_mem _ (inductionHypothesis found)

theorem get?_of_mem {κ ν : Type} [DecidableEq κ] {key : κ} {value : ν}
    {entries : List (κ × ν)} (distinct : (entries.map Prod.fst).Nodup)
    (member : (key, value) ∈ entries) : get? key entries = some value := by
  induction entries with
  | nil => simp at member
  | cons entry rest inductionHypothesis =>
    obtain ⟨present, held⟩ := entry
    rw [List.map_cons, List.nodup_cons] at distinct
    rw [get?]
    rcases List.mem_cons.mp member with isHead | isLater
    · simp only [Prod.mk.injEq] at isHead
      simp [isHead.1, isHead.2]
    · have different : ¬present = key := by
        intro same
        have listed : key ∈ rest.map Prod.fst := List.mem_map.mpr ⟨(key, value), isLater, rfl⟩
        exact distinct.1 (same ▸ listed)
      rw [if_neg different]
      exact inductionHypothesis distinct.2 isLater

theorem nodup_map_fst_foldl_upsert {κ ν : Type} [DecidableEq κ] {entries pairs : List (κ × ν)}
    (distinct : (entries.map Prod.fst).Nodup) :
    ((pairs.foldl (fun entries pair => upsert pair.1 pair.2 entries) entries).map
      Prod.fst).Nodup := by
  induction pairs generalizing entries with
  | nil => exact distinct
  | cons pair rest inductionHypothesis =>
    exact inductionHypothesis (nodup_map_fst_upsert distinct)

theorem get?_foldl_upsert_of_notMem {κ ν : Type} [DecidableEq κ] {wanted : κ}
    {entries pairs : List (κ × ν)} (absent : wanted ∉ pairs.map Prod.fst) :
    get? wanted (pairs.foldl (fun entries pair => upsert pair.1 pair.2 entries) entries) =
      get? wanted entries := by
  induction pairs generalizing entries with
  | nil => rfl
  | cons pair rest inductionHypothesis =>
    rw [List.map_cons, List.mem_cons, not_or] at absent
    rw [List.foldl_cons, inductionHypothesis absent.2, get?_upsert, if_neg absent.1]

/-- Under a key that has been put in stands a value that has been put there. -/
theorem exists_get?_foldl_upsert {κ ν : Type} [DecidableEq κ] {wanted : κ}
    {entries pairs : List (κ × ν)} (present : wanted ∈ pairs.map Prod.fst) :
    ∃ value, (wanted, value) ∈ pairs ∧
      get? wanted (pairs.foldl (fun entries pair => upsert pair.1 pair.2 entries) entries) =
        some value := by
  induction pairs generalizing entries with
  | nil => cases present
  | cons pair rest inductionHypothesis =>
    rw [List.foldl_cons]
    by_cases again : wanted ∈ rest.map Prod.fst
    · obtain ⟨value, member, found⟩ := inductionHypothesis again
      exact ⟨value, List.mem_cons_of_mem _ member, found⟩
    · rw [get?_foldl_upsert_of_notMem again, get?_upsert]
      rw [List.map_cons, List.mem_cons] at present
      rcases present with rfl | inRest
      · rw [if_pos rfl]
        exact ⟨pair.2, List.mem_cons_self, rfl⟩
      · exact absurd inRest again

theorem get?_append {κ ν : Type} [DecidableEq κ] (key : κ) (entries others : List (κ × ν)) :
    get? key (entries ++ others) = (get? key entries).or (get? key others) := by
  induction entries with
  | nil => rfl
  | cons entry rest inductionHypothesis =>
    rw [List.cons_append, get?, get?]
    split
    · rfl
    · exact inductionHypothesis

theorem get?_eq_none_iff {κ ν : Type} [DecidableEq κ] {key : κ} {entries : List (κ × ν)} :
    get? key entries = none ↔ key ∉ entries.map Prod.fst := by
  induction entries with
  | nil => simp [get?]
  | cons entry rest inductionHypothesis =>
    rw [get?, List.map_cons, List.mem_cons, not_or, ← inductionHypothesis]
    split
    · next isKey => simp [isKey]
    · next otherKey => simp [Ne.symm otherKey]

/-- Where no key is repeated, the order of the entries makes no difference. -/
theorem get?_of_perm {κ ν : Type} [DecidableEq κ] {key : κ} {entries others : List (κ × ν)}
    (perm : entries.Perm others) (distinct : (entries.map Prod.fst).Nodup) :
    get? key entries = get? key others := by
  ext value
  constructor
  · intro found
    exact get?_of_mem ((perm.map Prod.fst).nodup_iff.mp distinct)
      (perm.mem_iff.mp (mem_of_get? found))
  · intro found
    exact get?_of_mem distinct (perm.mem_iff.mpr (mem_of_get? found))

end IconForge.Keyed
