import ConfigNamespace.Document.Cache
import ConfigNamespace.Keyed
import Mathlib.Data.List.Forall2
import Mathlib.Data.List.Induction

/-!
# Laws of keyed entries

What is read under a key after an entry was put, for keyed entries and for the cache of documents. Rows
of entries with the same keys and related values stay so.
-/

namespace ConfigNamespace

private theorem lookup_cons_eq_ite {κ α : Type} [BEq κ] [LawfulBEq κ] [DecidableEq κ] (k key : κ)
    (v : α) (entries : List (κ × α)) :
    ((k, v) :: entries).lookup key = if key = k then some v else entries.lookup key := by
  rw [List.lookup_cons]
  by_cases h : key = k
  · simp [h]
  · have hne : (key == k) = false := by simpa using h
    rw [hne, if_neg h]

private theorem lookup_filter_ne {κ α : Type} [BEq κ] [LawfulBEq κ] [DecidableEq κ] (k key : κ)
    (entries : List (κ × α)) :
    (entries.filter fun entry => entry.1 ≠ k).lookup key =
      if key = k then none else entries.lookup key := by
  induction entries with
  | nil => simp
  | cons entry entries ih =>
    obtain ⟨k', v⟩ := entry
    by_cases hk' : k' = k
    · rw [List.filter_cons_of_neg (by simpa using hk'), ih, lookup_cons_eq_ite, hk']
      by_cases hkey : key = k <;> simp [hkey]
    · rw [List.filter_cons_of_pos (by simpa using hk'), lookup_cons_eq_ite, lookup_cons_eq_ite, ih]
      by_cases hkey : key = k'
      · simp [hkey, hk']
      · simp [hkey]

namespace Keyed

variable {α : Type}

/-- Nothing is held where there are no entries. -/
@[simp] theorem get?_nil (key : Text) : get? ([] : Keyed α) key = none := rfl

/-- The first entry under a key is the one that counts. -/
theorem get?_cons (k key : Text) (v : α) (entries : Keyed α) :
    get? ((k, v) :: entries) key = if key = k then some v else get? entries key :=
  lookup_cons_eq_ite k key v entries

/-- Under a key that was taken away there is no entry, and nothing else changes. -/
theorem get?_remove (k key : Text) (entries : Keyed α) :
    get? (remove entries k) key = if key = k then none else get? entries key :=
  lookup_filter_ne k key entries

/-- What is read under a key is an entry. -/
theorem mem_of_get? {key : Text} {v : α} {entries : Keyed α} (h : get? entries key = some v) :
    (key, v) ∈ entries := by
  induction entries with
  | nil => cases h
  | cons entry entries ih =>
    obtain ⟨k, v'⟩ := entry
    rw [get?_cons] at h
    split at h
    next heq =>
      cases h
      rw [heq]
      exact List.mem_cons_self
    · exact List.mem_cons_of_mem _ (ih h)

/-- Where each key is there once, every entry is read under its key. -/
theorem get?_of_mem {key : Text} {v : α} {entries : Keyed α} (hkeys : entries.keys.Nodup)
    (h : (key, v) ∈ entries) : get? entries key = some v := by
  induction entries with
  | nil => cases h
  | cons entry entries ih =>
    obtain ⟨k, v'⟩ := entry
    obtain ⟨hfresh, hkeys⟩ := List.nodup_cons.mp hkeys
    rw [get?_cons]
    rcases List.mem_cons.mp h with heq | hmem
    · cases heq
      exact if_pos rfl
    · rw [if_neg, ih hkeys hmem]
      rintro rfl
      exact hfresh (List.mem_map.mpr ⟨_, hmem, rfl⟩)

/-- An entry that was put is read under its key, and nothing else changes. -/
theorem get?_put (k key : Text) (v : α) (entries : Keyed α) :
    get? (put k v entries) key = if key = k then some v else get? entries key := by
  induction entries with
  | nil => exact lookup_cons_eq_ite k key v []
  | cons entry entries ih =>
    obtain ⟨k', v'⟩ := entry
    unfold get? at ih ⊢
    unfold put
    by_cases hk : k' = k
    · rw [if_pos hk, hk, lookup_cons_eq_ite, lookup_cons_eq_ite]
      by_cases hkey : key = k <;> simp [hkey]
    · rw [if_neg hk, lookup_cons_eq_ite, lookup_cons_eq_ite, ih]
      by_cases hkey : key = k'
      · simp [hkey, hk]
      · simp [hkey]

/-- Entries behind others are read where those have nothing. -/
theorem get?_append (entries others : Keyed α) (key : Text) :
    get? (entries ++ others) key = (get? entries key).or (get? others key) :=
  List.lookup_append

/-- What is there after an entry was put is that entry, or was there before. -/
theorem mem_of_mem_put {k : Text} {v : α} {entries : Keyed α} {entry : Text × α}
    (h : entry ∈ put k v entries) : entry = (k, v) ∨ entry ∈ entries := by
  induction entries with
  | nil => exact .inl (List.mem_singleton.mp h)
  | cons first entries ih =>
    obtain ⟨k', v'⟩ := first
    unfold put at h
    split at h
    next heq =>
      rcases List.mem_cons.mp h with rfl | hmem
      · exact .inl (by rw [heq])
      · exact .inr (.tail _ hmem)
    · rcases List.mem_cons.mp h with rfl | hmem
      · exact .inr (.head _)
      · exact (ih hmem).imp_right (.tail _)

/-- There is a value under a key exactly if it is one of the keys. -/
theorem isSome_get?_iff {key : Text} {entries : Keyed α} :
    (get? entries key).isSome ↔ key ∈ entries.keys := by
  induction entries with
  | nil => exact iff_of_false nofun List.not_mem_nil
  | cons entry entries ih =>
    obtain ⟨k, v⟩ := entry
    rw [get?_cons, keys, List.map_cons, List.mem_cons]
    by_cases hkey : key = k
    · rw [if_pos hkey]
      exact iff_of_true rfl (.inl hkey)
    · rw [if_neg hkey, ih, or_iff_right hkey]
      rfl

/-- A key that is put is one of the keys, and comes last if it is new. -/
theorem keys_put (k : Text) (v : α) (entries : Keyed α) :
    (put k v entries).keys = if k ∈ entries.keys then entries.keys else entries.keys ++ [k] := by
  induction entries with
  | nil => rfl
  | cons entry entries ih =>
    obtain ⟨k', v'⟩ := entry
    unfold keys at ih ⊢
    unfold put
    by_cases hk : k' = k
    · simp [hk]
    · rw [if_neg hk, List.map_cons, List.map_cons, ih]
      by_cases hmem : k ∈ entries.map (·.1)
      · rw [if_pos hmem, if_pos (.tail _ hmem)]
      · rw [if_neg hmem, if_neg, List.cons_append]
        exact fun h => (List.mem_cons.mp h).elim (fun heq => hk heq.symm) hmem

/-- Putting an entry keeps each key there once. -/
theorem nodup_keys_put {entries : Keyed α} (h : entries.keys.Nodup) (k : Text) (v : α) :
    (put k v entries).keys.Nodup := by
  rw [keys_put]
  split
  next => exact h
  next hnew =>
    refine List.nodup_append.mpr ⟨h, by simp, fun key hkey last hlast heq => ?_⟩
    rw [List.mem_singleton.mp hlast] at heq
    exact hnew (heq ▸ hkey)

/-- Several entries, put one after another. -/
def putAll (history entries : Keyed α) : Keyed α :=
  history.foldl (fun entries entry => put entry.1 entry.2 entries) entries

/-- What was put last under a key is read there. -/
theorem get?_putAll (history entries : Keyed α) (key : Text) :
    get? (putAll history entries) key = (get? history.reverse key).or (get? entries key) := by
  induction history generalizing entries with
  | nil => rfl
  | cons entry history ih =>
    rw [putAll, List.foldl_cons, ← putAll, ih, List.reverse_cons, get?_append, Option.or_assoc,
      get?_put, get?_cons, get?_nil]
    split <;> rfl

/-- An entry that is put takes the place of the one before under its key, or comes last. -/
theorem find?_put (p : Text → Bool) (k : Text) (v : α) (entries : Keyed α) :
    List.find? (fun entry => p entry.1) (put k v entries) =
      match List.find? (fun entry => p entry.1) entries with
      | some (key, w) => some (key, if key = k then v else w)
      | none => if p k then some (k, v) else none := by
  induction entries with
  | nil =>
    change [(k, v)].find? _ = _
    rw [List.find?_singleton, List.find?_nil]
  | cons entry entries ih =>
    obtain ⟨k', w⟩ := entry
    unfold put
    have hskip (hp : ¬ p k' = true) (w : α) (rest : Keyed α) :
        List.find? (fun entry => p entry.1) ((k', w) :: rest) =
          List.find? (fun entry => p entry.1) rest :=
      List.find?_cons_of_neg hp
    by_cases heq : k' = k
    · subst heq
      rw [if_pos rfl]
      by_cases hp : p k' = true
      · simp [hp]
      · rw [hskip hp, hskip hp]
        cases hfound : List.find? (fun entry => p entry.1) entries with
        | none => exact (if_neg hp).symm
        | some found =>
          have hheld := List.find?_some hfound
          have hother : found.1 ≠ k' := fun heq => hp (heq ▸ hheld)
          simp [hother]
    · rw [if_neg heq]
      by_cases hp : p k' = true
      · simp [hp, heq]
      · rw [hskip hp, hskip hp, ih]

/-- Among entries that were put one after another, the first one whose key has a property is under the
first such key that came, with what was put last under it. -/
theorem find?_putAll (p : Text → Bool) (history : Keyed α) :
    List.find? (fun entry => p entry.1) (putAll history []) =
      (history.keys.find? p).bind fun key => (get? history.reverse key).map fun v => (key, v) := by
  induction history using List.reverseRecOn with
  | nil => rfl
  | append_singleton history entry ih =>
    obtain ⟨k, v⟩ := entry
    have hput : putAll (history ++ [(k, v)]) [] = put k v (putAll history []) := by
      rw [putAll, List.foldl_append]
      rfl
    have hkeys : keys (history ++ [(k, v)]) = keys history ++ [k] := List.map_append
    rw [hput, find?_put, ih, hkeys, List.find?_append, List.reverse_append]
    change _ = Option.bind _ fun key => (get? ((k, v) :: history.reverse) key).map _
    simp only [get?_cons]
    cases hfound : (keys history).find? p with
    | none =>
      rw [List.find?_singleton]
      by_cases hp : p k = true <;> simp [hp]
    | some key =>
      dsimp only [Option.some_or, Option.bind_some]
      have hknown : key ∈ keys history.reverse := by
        rw [keys, List.map_reverse, List.mem_reverse]
        exact List.mem_of_find?_eq_some hfound
      obtain ⟨w, hw⟩ := Option.isSome_iff_exists.mp (isSome_get?_iff.mpr hknown)
      rw [hw]
      by_cases hkey : key = k <;> simp [hkey]

section Alike

variable {Q : α → α → Prop} {entries entries' : Keyed α}

/-- Whether two rows of entries have the same keys in the same order, with related values. -/
def Alike (Q : α → α → Prop) (entries entries' : Keyed α) : Prop :=
  List.Forall₂ (fun entry entry' => entry'.1 = entry.1 ∧ Q entry.2 entry'.2) entries entries'

/-- What is read under a key is related. -/
theorem Alike.get? (h : Alike Q entries entries') (key : Text) :
    Option.Rel Q (Keyed.get? entries key) (Keyed.get? entries' key) := by
  induction h with
  | nil => exact .none
  | @cons entry entry' _ _ hentry _ ih =>
    obtain ⟨k, v⟩ := entry
    obtain ⟨k', v'⟩ := entry'
    obtain ⟨rfl, hv⟩ : k' = k ∧ Q v v' := hentry
    rw [get?_cons, get?_cons]
    split
    · exact .some hv
    · exact ih

/-- Collections that are alike have the same keys. -/
theorem Alike.has_eq (h : Alike Q entries entries') (key : Text) :
    has entries' key = has entries key := by
  unfold has
  have hrel := h.get? key
  generalize Keyed.get? entries key = found at hrel
  generalize Keyed.get? entries' key = found' at hrel
  cases hrel <;> rfl

/-- Collections stay alike when values that are related are put under the same key. -/
theorem Alike.put (h : Alike Q entries entries') (key : Text) {v v' : α} (hv : Q v v') :
    Alike Q (Keyed.put key v entries) (Keyed.put key v' entries') := by
  induction h with
  | nil => exact .cons ⟨rfl, hv⟩ .nil
  | @cons entry entry' _ _ hentry hrest ih =>
    obtain ⟨k, w⟩ := entry
    obtain ⟨k', w'⟩ := entry'
    obtain ⟨rfl, hw⟩ : k' = k ∧ Q w w' := hentry
    unfold Keyed.put
    split
    · exact .cons ⟨rfl, hv⟩ hrest
    · exact .cons ⟨rfl, hw⟩ ih

/-- Collections stay alike when the same key is taken away. -/
theorem Alike.remove (h : Alike Q entries entries') (key : Text) :
    Alike Q (Keyed.remove entries key) (Keyed.remove entries' key) := by
  induction h with
  | nil => exact .nil
  | @cons entry entry' _ _ hentry _ ih =>
    unfold Keyed.remove
    by_cases hkey : entry.1 = key
    · rw [List.filter_cons_of_neg (by simp [hkey]),
        List.filter_cons_of_neg (by simp [hentry.1, hkey])]
      exact ih
    · rw [List.filter_cons_of_pos (by simp [hkey]),
        List.filter_cons_of_pos (by simp [hentry.1, hkey])]
      exact .cons hentry ih

end Alike

end Keyed

namespace DocumentCache

/-- The empty cache holds nothing. -/
@[simp] theorem get?_empty (key : CacheKey) : empty.get? key = none := rfl

/-- A document that was added is found under its key, and nothing else changes. -/
theorem get?_add (c : DocumentCache) (k key : CacheKey) (d : Document) :
    (c.add k d).get? key = if key = k then some d else c.get? key := by
  unfold get? add
  rw [List.lookup_append, lookup_filter_ne, lookup_cons_eq_ite]
  by_cases hkey : key = k <;> simp [hkey]

/-- A cache that is cleared holds nothing. -/
@[simp] theorem get?_clear (c : DocumentCache) (key : CacheKey) : c.clear.get? key = none := rfl

/-- Under the keys of a handle that was invalidated nothing is found, and nothing else changes. -/
theorem get?_invalidate (c : DocumentCache) (handle : ResourceHandle) (key : CacheKey) :
    (c.invalidate handle).get? key = if key.handle = handle then none else c.get? key := by
  unfold get? invalidate
  induction c.documents with
  | nil => simp
  | cons entry entries ih =>
    obtain ⟨k, d⟩ := entry
    by_cases hk : k.handle = handle
    · rw [List.filter_cons_of_neg (by simpa using hk), ih, lookup_cons_eq_ite]
      by_cases hkey : key = k
      · rw [hkey, if_pos hk, if_pos hk]
      · rw [if_neg hkey]
    · rw [List.filter_cons_of_pos (by simpa using hk), lookup_cons_eq_ite, lookup_cons_eq_ite, ih]
      by_cases hkey : key = k
      · rw [if_pos hkey, if_pos hkey, hkey, if_neg hk]
      · rw [if_neg hkey, if_neg hkey]

/-- The keys that documents are kept under. -/
def keys (c : DocumentCache) : List CacheKey := c.documents.map (·.1)

/-- The size of a cache is the number of its keys. -/
theorem size_eq_length_keys (c : DocumentCache) : c.size = c.keys.length := by
  simp [size, keys]

/-- A document is found under the keys that documents are kept under. -/
theorem mem_keys_iff (c : DocumentCache) (key : CacheKey) : key ∈ c.keys ↔ (c.get? key).isSome := by
  unfold keys get?
  induction c.documents with
  | nil => simp
  | cons entry entries ih =>
    rw [List.map_cons, List.mem_cons, ih, lookup_cons_eq_ite]
    by_cases hkey : key = entry.1 <;> simp [hkey]

/-- Some document of a handle is kept if one is found for some delimiter. -/
theorem has_iff (c : DocumentCache) (handle : ResourceHandle) :
    c.has handle = true ↔ ∃ delimiter, (c.get? ⟨handle, delimiter⟩).isSome := by
  have hkeys : c.has handle = true ↔ ∃ key ∈ c.keys, key.handle = handle := by
    simp [has, keys]
  rw [hkeys]
  constructor
  · rintro ⟨⟨_, delimiter⟩, hmem, rfl⟩
    exact ⟨delimiter, (c.mem_keys_iff _).mp hmem⟩
  · rintro ⟨delimiter, hfound⟩
    exact ⟨⟨handle, delimiter⟩, (c.mem_keys_iff _).mpr hfound, rfl⟩

/-- Adding a document keeps each key there once. -/
theorem nodup_keys_add {c : DocumentCache} (h : c.keys.Nodup) (key : CacheKey) (d : Document) :
    (c.add key d).keys.Nodup := by
  have hkeys : (c.add key d).keys =
      (c.documents.filter fun entry => entry.1 ≠ key).map (·.1) ++ [key] := by
    simp [add, keys]
  rw [hkeys]
  refine List.nodup_append.mpr ⟨h.sublist ((List.filter_sublist).map _), by simp, ?_⟩
  intro k hk k' hk' heq
  obtain ⟨entry, hentry, rfl⟩ := List.mem_map.mp hk
  have hother := (List.mem_filter.mp hentry).2
  rw [List.mem_singleton.mp hk'] at heq
  simp [heq] at hother

/-- Invalidating a handle keeps each key there once. -/
theorem nodup_keys_invalidate {c : DocumentCache} (h : c.keys.Nodup) (handle : ResourceHandle) :
    (c.invalidate handle).keys.Nodup := h.sublist ((List.filter_sublist).map _)

end DocumentCache

end ConfigNamespace
