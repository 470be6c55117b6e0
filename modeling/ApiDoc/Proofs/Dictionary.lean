/-
This file states what the operations on dictionaries do to keys, entries and values: setting a key
keeps the order and the distinctness of keys, and a dictionary that is rebuilt from entries with
distinct keys is those entries.
-/
import ApiDoc.Dict
import Mathlib.Data.List.Induction
import Mathlib.Data.List.Nodup

namespace ApiDoc.Dict

variable {α β : Type}

/-! ### Setting a key -/

@[simp] theorem keys_nil : keys ([] : Dict α) = [] := rfl

@[simp] theorem keys_cons (entry : Text × α) (rest : Dict α) :
    keys (entry :: rest) = entry.1 :: keys rest := rfl

@[simp] theorem keys_append (first second : Dict α) :
    keys (first ++ second) = keys first ++ keys second := List.map_append

/-- A key is known exactly if it is among the keys. -/
theorem hasKey_iff (dict : Dict α) (key : Text) : dict.hasKey key = true ↔ key ∈ dict.keys := by
  simp [hasKey, keys]

theorem isEmpty_insert (dict : Dict α) (key : Text) (value : α) :
    (dict.insert key value).isEmpty = false := by
  cases dict with
  | nil => rfl
  | cons entry rest =>
    rw [insert]
    split <;> rfl

/-- A new key goes to the end with its value. -/
theorem insert_of_not_mem {dict : Dict α} {key : Text} (new : key ∉ dict.keys) (value : α) :
    dict.insert key value = dict ++ [(key, value)] := by
  induction dict with
  | nil => rfl
  | cons entry rest inductionHypothesis =>
    rw [keys_cons, List.mem_cons, not_or] at new
    rw [insert, if_neg (Ne.symm new.1), inductionHypothesis new.2, List.cons_append]

/-- A known key keeps its place. -/
theorem keys_insert_of_mem {dict : Dict α} {key : Text} (known : key ∈ dict.keys) (value : α) :
    (dict.insert key value).keys = dict.keys := by
  induction dict with
  | nil => cases known
  | cons entry rest inductionHypothesis =>
    rw [insert]
    split
    · rfl
    · rename_i other
      rw [keys_cons, List.mem_cons] at known
      rw [keys_cons, keys_cons, inductionHypothesis (known.resolve_left (Ne.symm other))]

/-- After a key is set, the keys are those from before and the key. -/
theorem mem_keys_insert (dict : Dict α) (key : Text) (value : α) (name : Text) :
    name ∈ (dict.insert key value).keys ↔ name ∈ dict.keys ∨ name = key := by
  by_cases known : key ∈ dict.keys
  · rw [keys_insert_of_mem known]
    exact ⟨Or.inl, fun member => member.elim id fun same => same ▸ known⟩
  · rw [insert_of_not_mem known, keys_append, List.mem_append]
    exact or_congr_right List.mem_singleton

theorem hasKey_insert (dict : Dict α) (key : Text) (value : α) (name : Text) :
    (dict.insert key value).hasKey name = (dict.hasKey name || decide (name = key)) := by
  rw [Bool.eq_iff_iff, hasKey_iff, mem_keys_insert, Bool.or_eq_true, hasKey_iff, decide_eq_true_iff]

/-- Setting a key keeps the keys distinct. -/
theorem nodup_keys_insert {dict : Dict α} (distinct : dict.keys.Nodup) (key : Text) (value : α) :
    (dict.insert key value).keys.Nodup := by
  by_cases known : key ∈ dict.keys
  · rw [keys_insert_of_mem known]
    exact distinct
  · rw [insert_of_not_mem known, keys_append, List.nodup_append]
    refine ⟨distinct, List.nodup_singleton key, ?_⟩
    intro first firstMember second secondMember
    rw [keys_cons, keys_nil, List.mem_singleton] at secondMember
    rw [secondMember]
    rintro rfl
    exact known firstMember

/-- After a key is set, every entry is the new one or was there before. -/
theorem mem_of_mem_insert {dict : Dict α} {key : Text} {value : α} {entry : Text × α}
    (member : entry ∈ dict.insert key value) : entry = (key, value) ∨ entry ∈ dict := by
  induction dict with
  | nil => exact Or.inl (List.mem_singleton.mp member)
  | cons first rest inductionHypothesis =>
    rw [insert] at member
    split at member
    · rename_i same
      rcases List.mem_cons.mp member with head | tail
      · rw [same] at head
        exact Or.inl head
      · exact Or.inr (List.mem_cons_of_mem first tail)
    · rcases List.mem_cons.mp member with head | tail
      · exact Or.inr (head ▸ List.mem_cons_self)
      · exact (inductionHypothesis tail).imp_right (List.mem_cons_of_mem first)

/-- A key that has been added where it was new is new no more. -/
theorem insertIfNew_insertIfNew (dict : Dict α) (key : Text) (value : α) :
    (dict.insertIfNew key value).insertIfNew key value = dict.insertIfNew key value := by
  have known : (dict.insertIfNew key value).hasKey key = true := by
    unfold insertIfNew
    split
    · assumption
    · rw [hasKey_iff, keys_append]
      exact List.mem_append_right _ List.mem_cons_self
  rw [insertIfNew.eq_def (dict.insertIfNew key value), if_pos known]

/-! ### Values under keys -/

/-- There is no value under a key that is not there. -/
theorem get?_eq_none_iff (dict : Dict α) (wanted : Text) :
    dict.get? wanted = none ↔ wanted ∉ dict.keys := by
  induction dict with
  | nil => exact iff_of_true rfl List.not_mem_nil
  | cons entry rest inductionHypothesis =>
    rw [get?, keys_cons, List.mem_cons, not_or]
    split
    · rename_i same
      exact iff_of_false (Option.some_ne_none _) fun absent => absent.1 same.symm
    · rename_i other
      rw [inductionHypothesis]
      exact ⟨fun absent => ⟨Ne.symm other, absent⟩, And.right⟩

theorem mem_of_get?_eq_some {dict : Dict α} {key : Text} {value : α}
    (found : dict.get? key = some value) : (key, value) ∈ dict := by
  induction dict with
  | nil => cases found
  | cons entry rest inductionHypothesis =>
    rw [get?] at found
    split at found
    · rename_i same
      cases found
      exact same ▸ List.mem_cons_self
    · exact List.mem_cons_of_mem _ (inductionHypothesis found)

theorem mem_keys_of_get?_eq_some {dict : Dict α} {key : Text} {value : α}
    (found : dict.get? key = some value) : key ∈ dict.keys :=
  List.mem_map.mpr ⟨_, mem_of_get?_eq_some found, rfl⟩

theorem get?_insert_self (dict : Dict α) (key : Text) (value : α) :
    (dict.insert key value).get? key = some value := by
  induction dict with
  | nil => simp [insert, get?]
  | cons entry rest inductionHypothesis =>
    rw [insert]
    split
    · rename_i same
      rw [get?, if_pos same]
    · rename_i other
      rw [get?, if_neg other, inductionHypothesis]

theorem get?_insert_of_ne (dict : Dict α) {key wanted : Text} (other : wanted ≠ key) (value : α) :
    (dict.insert key value).get? wanted = dict.get? wanted := by
  induction dict with
  | nil => simp [insert, get?, Ne.symm other]
  | cons entry rest inductionHypothesis =>
    rw [insert]
    split
    · rename_i same
      rw [get?, get?, if_neg (same ▸ Ne.symm other), if_neg (same ▸ Ne.symm other)]
    · rw [get?, get?, inductionHypothesis]

theorem hasKey_eq_isSome (dict : Dict α) (key : Text) :
    dict.hasKey key = (dict.get? key).isSome := by
  rw [Bool.eq_iff_iff, hasKey_iff, ← Option.not_isNone, Bool.not_eq_true', ← Bool.not_eq_true,
    Option.isNone_iff_eq_none, get?_eq_none_iff, not_not]

/-- Where keys are distinct, an entry is found under its key. -/
theorem get?_of_mem {dict : Dict α} (distinct : dict.keys.Nodup) {key : Text} {value : α}
    (member : (key, value) ∈ dict) : dict.get? key = some value := by
  induction dict with
  | nil => cases member
  | cons entry rest inductionHypothesis =>
    rw [keys_cons, List.nodup_cons] at distinct
    rw [get?]
    rcases List.mem_cons.mp member with rfl | later
    · exact if_pos rfl
    · rw [if_neg, inductionHypothesis distinct.2 later]
      rintro rfl
      exact distinct.1 (List.mem_map.mpr ⟨_, later, rfl⟩)

/-- Where keys are distinct, their order makes no difference to what is found under them. -/
theorem get?_of_perm {first second : Dict α} (distinct : second.keys.Nodup)
    (same : first.Perm second) (key : Text) : first.get? key = second.get? key := by
  cases found : first.get? key with
  | none =>
    have absent := (get?_eq_none_iff _ _).mp found
    refine ((get?_eq_none_iff _ _).mpr fun member => absent ?_).symm
    exact (same.map Prod.fst).mem_iff.mpr member
  | some value =>
    exact (get?_of_mem distinct (same.mem_iff.mp (mem_of_get?_eq_some found))).symm

/-- The first part that has the key gives the value. -/
theorem get?_append (first second : Dict α) (key : Text) :
    get? (first ++ second) key = (first.get? key).or (second.get? key) := by
  induction first with
  | nil => rfl
  | cons entry rest inductionHypothesis =>
    rw [List.cons_append, get?, get?]
    split
    · rfl
    · exact inductionHypothesis

/-- Of two values that are set under a key the second remains. -/
theorem insert_insert (dict : Dict α) (key : Text) (first second : α) :
    (dict.insert key first).insert key second = dict.insert key second := by
  induction dict with
  | nil => exact if_pos rfl
  | cons entry rest inductionHypothesis =>
    rw [insert, insert]
    split
    · rename_i same
      exact if_pos same
    · rename_i other
      rw [insert, if_neg other, inductionHypothesis]

/-- Setting a key to the value that it has changes nothing. -/
theorem insert_eq_self {dict : Dict α} {key : Text} {value : α}
    (found : dict.get? key = some value) : dict.insert key value = dict := by
  induction dict with
  | nil => cases found
  | cons entry rest inductionHypothesis =>
    rw [get?] at found
    rw [insert]
    split
    · rename_i same
      rw [if_pos same, Option.some_inj] at found
      rw [← found]
    · rename_i other
      rw [if_neg other] at found
      rw [inductionHypothesis found]

/-- What is set under a key is not seen without the key. -/
theorem without_insert {dropped : List Text} {key : Text} (drops : key ∈ dropped) (dict : Dict α)
    (value : α) : (dict.insert key value).without dropped = dict.without dropped := by
  induction dict with
  | nil => exact List.filter_cons_of_neg (by simpa using drops)
  | cons entry rest inductionHypothesis =>
    unfold without at inductionHypothesis ⊢
    rw [insert]
    split
    · rename_i same
      rw [List.filter_cons_of_neg (by simpa [same] using drops),
        List.filter_cons_of_neg (by simpa [same] using drops)]
    · rw [List.filter_cons, List.filter_cons, inductionHypothesis]

/-! ### Dictionaries from entries -/

theorem ofEntries_concat (entries : List (Text × α)) (key : Text) (value : α) :
    ofEntries (entries ++ [(key, value)]) = (ofEntries entries).insert key value := by
  rw [ofEntries, List.foldl_append]
  rfl

/-- A dictionary that is made of entries has distinct keys. -/
theorem nodup_keys_ofEntries (entries : List (Text × α)) : (ofEntries entries).keys.Nodup := by
  induction entries using List.reverseRecOn with
  | nil => exact List.nodup_nil
  | append_singleton entries entry inductionHypothesis =>
    rw [ofEntries_concat]
    exact nodup_keys_insert inductionHypothesis _ _

/-- A dictionary holds no entry beyond those that it is made of. -/
theorem mem_of_mem_ofEntries {entries : List (Text × α)} {entry : Text × α}
    (member : entry ∈ ofEntries entries) : entry ∈ entries := by
  induction entries using List.reverseRecOn with
  | nil => exact member
  | append_singleton entries last inductionHypothesis =>
    rw [ofEntries_concat] at member
    rw [List.mem_append]
    rcases mem_of_mem_insert member with same | before
    · exact Or.inr (List.mem_singleton.mpr same)
    · exact Or.inl (inductionHypothesis before)

/-- A dictionary has the keys of the entries that it is made of. -/
theorem mem_keys_ofEntries (entries : Dict α) (key : Text) :
    key ∈ (ofEntries entries).keys ↔ key ∈ entries.keys := by
  induction entries using List.reverseRecOn with
  | nil => exact Iff.rfl
  | append_singleton entries entry inductionHypothesis =>
    rw [ofEntries_concat, mem_keys_insert, inductionHypothesis, keys_append, List.mem_append]
    exact or_congr_right List.mem_singleton.symm

/-- Entries with distinct keys make up the dictionary as they are. -/
theorem ofEntries_of_nodup {entries : Dict α} (distinct : entries.keys.Nodup) :
    ofEntries entries = entries := by
  induction entries using List.reverseRecOn with
  | nil => rfl
  | append_singleton entries entry inductionHypothesis =>
    rw [keys_append, List.nodup_append] at distinct
    rw [ofEntries_concat, inductionHypothesis distinct.1]
    refine insert_of_not_mem (fun known => ?_) entry.2
    exact distinct.2.2 entry.1 known entry.1 List.mem_cons_self rfl

theorem keys_mapEntries (change : Text → α → β) (dict : Dict α) :
    (dict.mapEntries change).keys = dict.keys := by
  simp [mapEntries, keys, Function.comp_def]

/-! ### Sorted dictionaries -/

theorem mem_sorted_iff (dict : Dict α) (entry : Text × α) : entry ∈ dict.sorted ↔ entry ∈ dict :=
  List.mem_mergeSort

theorem mem_keys_sorted (dict : Dict α) (key : Text) : key ∈ dict.sorted.keys ↔ key ∈ dict.keys :=
  (List.Perm.map _ (List.mergeSort_perm dict _)).mem_iff

end ApiDoc.Dict
