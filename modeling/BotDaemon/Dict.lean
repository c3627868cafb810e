import Mathlib.Data.List.Nodup

/-!
# Python dictionaries and lists

`BotDaemon.py` keeps its maps in dictionaries and its queues in lists. A dictionary is its list
of entries, each key at most once: `d[k] = v` replaces the entry of `k` where it stands, or adds
one at the end, and `del d[k]` drops it. The operations that raise return `Option`, with `none`
for the `KeyError` or `ValueError`.
-/

namespace BotDaemon

/-- The exceptions the allocator's dictionary and list operations raise. -/
inductive PyError
  | keyError
  | valueError
deriving DecidableEq, Repr

section Dict

variable {κ ν : Type}

/-- `d.keys()`. -/
def keys (d : List (κ × ν)) : List κ := d.map Prod.fst

/-- `d.values()`. -/
def values (d : List (κ × ν)) : List ν := d.map Prod.snd

@[simp] theorem keys_nil : keys ([] : List (κ × ν)) = [] := rfl

@[simp] theorem keys_cons (e : κ × ν) (d : List (κ × ν)) : keys (e :: d) = e.1 :: keys d := rfl

@[simp] theorem keys_append (d d' : List (κ × ν)) : keys (d ++ d') = keys d ++ keys d' :=
  List.map_append _ _ _

theorem mem_keys {d : List (κ × ν)} {k : κ} : k ∈ keys d ↔ ∃ v, (k, v) ∈ d := by
  simp [keys]

theorem mem_values {d : List (κ × ν)} {v : ν} : v ∈ values d ↔ ∃ k, (k, v) ∈ d := by
  simp [values]

theorem mem_keys_filter {d : List (κ × ν)} {p : κ × ν → Bool} {x : κ}
    (h : x ∈ keys (d.filter p)) : x ∈ keys d := by
  obtain ⟨v, hv⟩ := mem_keys.mp h
  exact mem_keys.mpr ⟨v, (List.mem_filter.mp hv).1⟩

theorem nodup_keys_filter {d : List (κ × ν)} (hd : (keys d).Nodup) (p : κ × ν → Bool) :
    (keys (d.filter p)).Nodup :=
  hd.sublist ((List.filter_sublist d).map Prod.fst)

variable [DecidableEq κ]

/-- `d[k]`, or `none` for a `KeyError`. -/
def getItem : List (κ × ν) → κ → Option ν
  | [], _ => none
  | (k', v) :: d, k => if k' = k then some v else getItem d k

/-- `d[k] = v`. -/
def setItem : List (κ × ν) → κ → ν → List (κ × ν)
  | [], k, v => [(k, v)]
  | (k', v') :: d, k, v => if k' = k then (k, v) :: d else (k', v') :: setItem d k v

/-- `del d[k]`, or `none` for a `KeyError`. -/
def delItem (d : List (κ × ν)) (k : κ) : Option (List (κ × ν)) :=
  if k ∈ keys d then some (d.filter fun e => e.1 ≠ k) else none

/-- `d.has_key(k)`. -/
def hasKey (d : List (κ × ν)) (k : κ) : Bool := k ∈ keys d

@[simp] theorem hasKey_iff {d : List (κ × ν)} {k : κ} : hasKey d k = true ↔ k ∈ keys d := by
  simp [hasKey]

theorem getItem_eq_some {d : List (κ × ν)} {k : κ} {v : ν} (h : getItem d k = some v) :
    (k, v) ∈ d := by
  induction d with
  | nil => cases h
  | cons e d ih =>
    obtain ⟨k', v'⟩ := e
    simp only [getItem] at h
    split_ifs at h with hk
    · cases h; subst hk; exact List.mem_cons_self _ _
    · exact List.mem_cons_of_mem _ (ih h)

@[simp] theorem getItem_eq_none {d : List (κ × ν)} {k : κ} : getItem d k = none ↔ k ∉ keys d := by
  induction d with
  | nil => simp [getItem]
  | cons e d ih =>
    obtain ⟨k', v'⟩ := e
    by_cases hk : k' = k
    · simp [getItem, hk]
    · simp [getItem, hk, ih, Ne.symm hk]

theorem getItem_isSome {d : List (κ × ν)} {k : κ} : (getItem d k).isSome ↔ k ∈ keys d := by
  rw [← not_iff_not, Option.not_isSome_iff_eq_none, getItem_eq_none]

@[simp] theorem getItem_setItem (d : List (κ × ν)) (k x : κ) (v : ν) :
    getItem (setItem d k v) x = if k = x then some v else getItem d x := by
  induction d with
  | nil => simp [setItem, getItem]
  | cons e d ih =>
    obtain ⟨k', v'⟩ := e
    by_cases hk : k' = k
    · subst hk; by_cases hx : k' = x <;> simp [setItem, getItem, hx]
    · simp only [setItem, hk, if_false, getItem, ih]
      by_cases hx : k' = x
      · subst hx; simp [Ne.symm hk]
      · simp [hx]

@[simp] theorem mem_keys_setItem {d : List (κ × ν)} {k x : κ} {v : ν} :
    x ∈ keys (setItem d k v) ↔ x ∈ keys d ∨ x = k := by
  rw [← getItem_isSome, ← getItem_isSome, getItem_setItem]
  by_cases hk : k = x
  · subst hk; simp
  · simp [hk, Ne.symm hk]

theorem setItem_of_not_mem {d : List (κ × ν)} {k : κ} {v : ν} (h : k ∉ keys d) :
    setItem d k v = d ++ [(k, v)] := by
  induction d with
  | nil => rfl
  | cons e d ih =>
    obtain ⟨k', v'⟩ := e
    simp only [keys_cons, List.mem_cons, not_or] at h
    simp [setItem, Ne.symm h.1, ih h.2]

theorem nodup_keys_setItem {d : List (κ × ν)} (hd : (keys d).Nodup) (k : κ) (v : ν) :
    (keys (setItem d k v)).Nodup := by
  induction d with
  | nil => simp [setItem]
  | cons e d ih =>
    obtain ⟨k', v'⟩ := e
    rw [keys_cons, List.nodup_cons] at hd
    simp only [setItem]
    split_ifs with hk
    · subst hk; exact List.nodup_cons.mpr hd
    · rw [keys_cons, List.nodup_cons, mem_keys_setItem]
      exact ⟨fun h => h.elim hd.1 hk, ih hd.2⟩

/-- In a dictionary with every key once, an entry is what `d[k]` finds. -/
theorem getItem_of_mem {d : List (κ × ν)} {k : κ} {v : ν} (hd : (keys d).Nodup)
    (h : (k, v) ∈ d) : getItem d k = some v := by
  induction d with
  | nil => cases h
  | cons e d ih =>
    obtain ⟨k', v'⟩ := e
    rw [keys_cons, List.nodup_cons] at hd
    rcases List.mem_cons.mp h with h | h
    · cases h; simp [getItem]
    · have hk : k' ≠ k := fun hk => hd.1 (hk ▸ mem_keys.mpr ⟨v, h⟩)
      simp [getItem, hk, ih hd.2 h]

theorem mem_setItem {d : List (κ × ν)} {k x : κ} {v v' : ν} (h : (x, v') ∈ setItem d k v) :
    (x, v') ∈ d ∨ (x = k ∧ v' = v) := by
  induction d with
  | nil => simp_all [setItem]
  | cons e d ih =>
    obtain ⟨k', v''⟩ := e
    simp only [setItem] at h
    split_ifs at h with hk
    · rcases List.mem_cons.mp h with h | h
      · exact .inr (by simpa using h)
      · exact .inl (List.mem_cons_of_mem _ h)
    · rcases List.mem_cons.mp h with h | h
      · exact .inl (h ▸ List.mem_cons_self _ _)
      · exact (ih h).imp_left (List.mem_cons_of_mem _)

theorem delItem_eq_some {d d' : List (κ × ν)} {k : κ} (h : delItem d k = some d') :
    k ∈ keys d ∧ d' = d.filter fun e => e.1 ≠ k := by
  unfold delItem at h
  split_ifs at h with hk
  exact ⟨hk, (Option.some.inj h).symm⟩

@[simp] theorem delItem_eq_none {d : List (κ × ν)} {k : κ} : delItem d k = none ↔ k ∉ keys d := by
  unfold delItem; split_ifs with hk <;> simp [hk]

@[simp] theorem mem_keys_filter_ne {d : List (κ × ν)} {k x : κ} :
    x ∈ keys (d.filter fun e => e.1 ≠ k) ↔ x ∈ keys d ∧ x ≠ k := by
  simp only [mem_keys, List.mem_filter, decide_eq_true_eq]
  constructor
  · rintro ⟨v, hv, hne⟩; exact ⟨⟨v, hv⟩, hne⟩
  · rintro ⟨⟨v, hv⟩, hne⟩; exact ⟨v, hv, hne⟩

@[simp] theorem getItem_filter_ne (d : List (κ × ν)) (k x : κ) :
    getItem (d.filter fun e => e.1 ≠ k) x = if k = x then none else getItem d x := by
  induction d with
  | nil => simp [getItem]
  | cons e d ih =>
    rw [List.filter_cons]
    by_cases hk : e.1 = k
    · rw [if_neg (by simpa using hk), ih]
      subst hk; by_cases hx : e.1 = x <;> simp [getItem, hx]
    · rw [if_pos (by simpa using hk), getItem, getItem, ih]
      by_cases hx : e.1 = x
      · subst hx; simp [hk, Ne.symm hk]
      · simp [hx]

@[simp] theorem getItem_delItem_getD (d : List (κ × ν)) (k x : κ) :
    getItem ((delItem d k).getD d) x = if k = x then none else getItem d x := by
  unfold delItem
  split_ifs with hk hx hx
  · rw [Option.getD_some, getItem_filter_ne, if_pos hx]
  · rw [Option.getD_some, getItem_filter_ne, if_neg hx]
  · subst hx; exact getItem_eq_none.mpr hk
  · rfl

end Dict

section List

variable {α : Type} [DecidableEq α]

/-- `l.remove(x)`, or `none` for a `ValueError`. -/
def remove (l : List α) (x : α) : Option (List α) := if x ∈ l then some (l.erase x) else none

/-- `try: l.remove(x) except: pass`. -/
@[simp] theorem remove_getD (l : List α) (x : α) : (remove l x).getD l = l.erase x := by
  unfold remove; split_ifs with h
  · rfl
  · exact (List.erase_of_not_mem h).symm

theorem remove_eq_some {l l' : List α} {x : α} (h : remove l x = some l') :
    x ∈ l ∧ l' = l.erase x := by
  unfold remove at h
  split_ifs at h with hx
  exact ⟨hx, (Option.some.inj h).symm⟩

@[simp] theorem remove_eq_none {l : List α} {x : α} : remove l x = none ↔ x ∉ l := by
  unfold remove; split_ifs with h <;> simp [h]

end List

end BotDaemon
