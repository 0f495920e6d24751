import CallLight.Proofs.Document.Store
import CallLight.Proofs.Text.Order
import CallLight.Proofs.Text.Runes

/-!
# The store and its history

The reference is a history: it writes down under each key what was stored there and where it was
deleted, and knows nothing of the store. Whatever is done to a store, it answers what its history
says last (`run_follows_history`). Every document stands under the key of its own URI, and an update
leaves the keys as they are, however the request spells the URI.

The invariant is `Records`. Each operation keeps it; for an update this rests on the document going
back under the key it was found under (`perform_update_cases`).
-/

namespace CallLight

/-- A change of a document that may fail and that leaves the URI alone. -/
structure Revision (ε : Type) where
  apply : Document → Except ε Document
  uri_eq : ∀ {d d' : Document}, apply d = .ok d' → d'.uri = d.uri

/-- What is done to a store. -/
inductive Operation (ε : Type) where
  | store (d : Document)
  | delete (u : Uri)
  | update (u : Uri) (f : Revision ε)
  | get (u : Uri)

/-! ## The reference -/

/-- What was written under which key, the latest first: a document, or nothing for a deletion. -/
structure History where
  writes : List (Text × Option Document)

namespace History

def empty : History := ⟨[]⟩

/-- What was written last under a key; nothing if that was a deletion, or if there was nothing. -/
def latest (h : History) (key : Text) : Option Document := (h.writes.lookup key).join

def write (h : History) (key : Text) (d : Option Document) : History := ⟨(key, d) :: h.writes⟩

/-- Writes an operation down. An update is of what was written last, and one that fails is not
written down. -/
def record {ε : Type} (h : History) : Operation ε → History
  | .store d => h.write d.uri.key (some d)
  | .delete u => h.write u.key none
  | .update u f =>
    match h.latest u.key with
    | none => h
    | some d =>
      match f.apply d with
      | .error _ => h
      | .ok d' => h.write u.key (some d')
  | .get _ => h

/-- The history of operations. -/
def ofOperations {ε : Type} (ops : List (Operation ε)) : History := ops.foldl record empty

theorem latest_write (h : History) (key : Text) (d : Option Document) (k : Text) :
    (h.write key d).latest k = if key = k then d else h.latest k := by
  unfold latest write
  rw [List.lookup_cons]
  by_cases hk : key = k
  · simp [hk]
  · have hne : (k == key) = false := by simpa using fun h => hk h.symm
    rw [hne, if_neg hk]

end History

/-! ## Keys -/

namespace Store

/-- The keys do not depend on the order of the entries. -/
theorem keys_eq_of_perm {s s' : Store} (h : (s.entries.map (·.1)).Perm (s'.entries.map (·.1))) :
    s.keys = s'.keys :=
  Text.mergeSort_eq_of_perm h

theorem mem_keys_iff {s : Store} {key : Text} : key ∈ s.keys ↔ ∃ d, s.lookup key = some d := by
  rw [keys, List.mem_mergeSort, ← Option.isSome_iff_exists, lookup, List.lookup_isSome_iff,
    List.mem_map]
  refine exists_congr fun e => and_congr_right fun _ => ?_
  rw [beq_iff_eq, eq_comm]

/-- No key stands twice. -/
def Distinct (s : Store) : Prop := (s.entries.map (·.1)).Nodup

theorem map_entries_eraseKey (s : Store) (key : Text) :
    (s.eraseKey key).entries.map (·.1) = (s.entries.map (·.1)).filter (· != key) := by
  rw [List.filter_map]
  rfl

theorem distinct_empty : empty.Distinct := List.nodup_nil

theorem Distinct.erase {s : Store} (h : s.Distinct) (u : Uri) : (s.erase u).Distinct := by
  rw [Distinct, Store.erase, map_entries_eraseKey]
  exact h.filter _

theorem Distinct.insert {s : Store} (h : s.Distinct) (d : Document) : (s.insert d).Distinct := by
  have herase : (s.eraseKey d.uri.key).Distinct := h.erase d.uri
  refine List.nodup_cons.mpr ⟨?_, herase⟩
  rw [map_entries_eraseKey]
  simp

/-- Replacing a document leaves the keys as they are. -/
theorem Distinct.keys_insert {s : Store} (h : s.Distinct) {d d₀ : Document}
    (hd₀ : s.lookup d.uri.key = some d₀) : (s.insert d).keys = s.keys := by
  have hmem : d.uri.key ∈ s.entries.map (·.1) := by
    have := mem_keys_iff.mpr ⟨d₀, hd₀⟩
    rwa [keys, List.mem_mergeSort] at this
  refine keys_eq_of_perm ?_
  rw [Store.insert, List.map_cons, map_entries_eraseKey, ← List.Nodup.erase_eq_filter h]
  exact (List.perm_cons_erase hmem).symm

/-! ## One operation -/

section Operations

variable {ε : Type} {s : Store} {h : History}

/-- The store after an operation. An update that fails leaves it as it is. -/
def perform (s : Store) : Operation ε → Store
  | .store d => s.insert d
  | .delete u => s.erase u
  | .update u f => (s.update u f.apply).toOption.getD s
  | .get _ => s

/-- The store after operations. -/
def run (s : Store) (ops : List (Operation ε)) : Store := ops.foldl perform s

/-- An update that succeeds replaces the document that it found, under the key it was found
under; any other does nothing. -/
theorem perform_update_cases (hs : s.Keyed) (u : Uri) (f : Revision ε) :
    (∃ d d', s.lookup u.key = some d ∧ f.apply d = .ok d' ∧ d'.uri.key = u.key ∧
      s.perform (.update u f) = s.insert d') ∨
    ((∀ d d', s.lookup u.key = some d → f.apply d ≠ .ok d') ∧ s.perform (.update u f) = s) := by
  rcases hd : s.lookup u.key with _ | d
  · right
    refine ⟨by simp, ?_⟩
    rw [perform, update_of_get?_eq_none hd]
    rfl
  rcases hf : f.apply d with e | d'
  · right
    refine ⟨?_, ?_⟩
    · rintro _ d' ⟨⟩ hok
      rw [hf] at hok
      cases hok
    · rw [perform, update_of_error hd hf]
      rfl
  · left
    refine ⟨d, d', rfl, hf, ?_, ?_⟩
    · rw [f.uri_eq hf, hs u.key d hd]
    · rw [perform, update_of_ok hd hf]
      rfl

/-- A store and its history: every document stands under its own key, no key stands twice, and the
store has what was written last. -/
structure Records (s : Store) (h : History) : Prop where
  keyed : s.Keyed
  distinct : s.Distinct
  agree : ∀ key, s.lookup key = h.latest key

theorem records_empty : empty.Records .empty :=
  ⟨keyed_empty, distinct_empty, fun _ => rfl⟩

theorem Records.insert (hs : s.Records h) (d : Document) :
    (s.insert d).Records (h.write d.uri.key (some d)) := by
  refine ⟨hs.keyed.insert d, hs.distinct.insert d, fun key => ?_⟩
  rw [lookup_insert, History.latest_write, hs.agree]

theorem Records.erase (hs : s.Records h) (u : Uri) : (s.erase u).Records (h.write u.key none) := by
  refine ⟨hs.keyed.erase u, hs.distinct.erase u, fun key => ?_⟩
  rw [lookup_erase, History.latest_write, hs.agree]

theorem Records.update (hs : s.Records h) (u : Uri) (f : Revision ε) :
    (s.perform (.update u f)).Records (h.record (.update u f)) := by
  rcases perform_update_cases hs.keyed u f with ⟨d, d', hd, hf, hkey, heq⟩ | ⟨hnone, heq⟩
  · have hrecord : h.record (.update u f) = h.write d'.uri.key (some d') := by
      rw [hkey]
      simp only [History.record, ← hs.agree, hd, hf]
    rw [heq, hrecord]
    exact hs.insert d'
  · have hrecord : h.record (.update u f) = h := by
      simp only [History.record, ← hs.agree]
      rcases hd : s.lookup u.key with _ | d
      · rfl
      · rcases hf : f.apply d with e | d'
        · simp only [hf]
        · exact absurd hf (hnone d d' hd)
    rw [heq, hrecord]
    exact hs

theorem Records.perform (hs : s.Records h) (op : Operation ε) :
    (s.perform op).Records (h.record op) := by
  cases op with
  | store d => exact hs.insert d
  | delete u => exact hs.erase u
  | update u f => exact hs.update u f
  | get u => exact hs

/-! ## All operations -/

theorem Records.run (hs : s.Records h) (ops : List (Operation ε)) :
    (s.run ops).Records (ops.foldl History.record h) := by
  induction ops generalizing s h with
  | nil => exact hs
  | cons op ops ih => exact ih (hs.perform op)

theorem Records.keys_update (hs : s.Records h) (u : Uri) (f : Revision ε) :
    (s.perform (.update u f)).keys = s.keys := by
  rcases perform_update_cases hs.keyed u f with ⟨d, d', hd, -, hkey, heq⟩ | ⟨-, heq⟩
  · rw [heq]
    exact hs.distinct.keys_insert (by rw [hkey, hd])
  · rw [heq]

theorem Records.lookup_update (hs : s.Records h) (u : Uri) (f : Revision ε) {key : Text}
    (hkey : key ≠ u.key) : (s.perform (.update u f)).lookup key = s.lookup key := by
  rcases perform_update_cases hs.keyed u f with ⟨d, d', -, -, hd', heq⟩ | ⟨-, heq⟩
  · rw [heq, lookup_insert, if_neg (by rw [hd']; exact hkey.symm)]
  · rw [heq]

end Operations

end Store

/-! ## Spellings of a URI -/

theorem Uri.key_spellings {p : Text} (hslashes : ¬ [47, 47] <+: p) (hscheme : ¬ fileScheme <+: p) :
    ∀ u ∈ [p, fileScheme ++ p, fileAuthority ++ p], key u = p := by
  have hauthority : ¬ fileAuthority <+: p := fun h =>
    hscheme ((List.prefix_append fileScheme [47, 47]).trans h)
  have hslashes' : ¬ fileAuthority <+: fileScheme ++ p := by
    rw [fileAuthority, List.prefix_append_right_inj]
    exact hslashes
  simp only [List.mem_cons, List.not_mem_nil, or_false]
  rintro u (rfl | rfl | rfl)
  · rw [key, Text.trimLead_of_not_prefix hauthority, Text.trimLead_of_not_prefix hscheme]
  · rw [key, Text.trimLead_of_not_prefix hslashes', Text.trimLead_append]
  · rw [key, Text.trimLead_append, Text.trimLead_of_not_prefix hscheme]

namespace Store

/-- The store is a map by key. Whatever is done to an empty store, it then has under a URI what was
written last under any spelling of it; every key is that of the document it holds; and an update
touches no key but that of the request, and does not add, remove or move any. A path, with the
scheme or with the scheme and slashes in front of it, has the path as its key. -/
theorem run_follows_history {ε : Type} (ops : List (Operation ε)) :
    (∀ u, (empty.run ops).get? u = (History.ofOperations ops).latest u.key) ∧
    (∀ key ∈ (empty.run ops).keys, ∃ d, (empty.run ops).lookup key = some d ∧ d.uri.key = key) ∧
    (∀ (u : Uri) (f : Revision ε),
      ((empty.run ops).perform (.update u f)).keys = (empty.run ops).keys ∧
      ∀ key ≠ u.key,
        ((empty.run ops).perform (.update u f)).lookup key = (empty.run ops).lookup key) ∧
    ∀ p : Text, ¬ [47, 47] <+: p → ¬ Uri.fileScheme <+: p →
      ∀ u ∈ [p, Uri.fileScheme ++ p, Uri.fileAuthority ++ p], Uri.key u = p := by
  have hrecords := records_empty.run ops
  refine ⟨fun u => hrecords.agree u.key, ?_, ?_, fun p => Uri.key_spellings⟩
  · intro key hkey
    rcases mem_keys_iff.mp hkey with ⟨d, hd⟩
    exact ⟨d, hd, hrecords.keyed key d hd⟩
  · intro u f
    exact ⟨hrecords.keys_update u f, fun key hkey => hrecords.lookup_update u f hkey⟩

/-- A change of the content that never fails. -/
def refill (content : Text) : Revision Unit where
  apply d := .ok { d with content }
  uri_eq h := by rw [← Except.ok.inj h]

/-- The document `file:x` is stored, updated as `x` and read; `y`, which is not there, is updated
and deleted. -/
def aliasOperations : List (Operation Unit) :=
  [.store ⟨Uri.fileScheme ++ [120], [], 1, [97]⟩, .update [120] (refill [98]),
    .get (Uri.fileAuthority ++ [120]), .update [121] (refill [99]), .delete [121]]

theorem run_follows_history_aliasOperations :
    (empty.run aliasOperations).get? (Uri.fileAuthority ++ [120]) =
      some ⟨Uri.fileScheme ++ [120], [], 1, [98]⟩ ∧
    (empty.run aliasOperations).get? [121] = none ∧
    ((empty.run aliasOperations).perform (.update [120] (refill []))).keys = [[120]] ∧
    Uri.key (Uri.fileAuthority ++ [120]) = [120] := by
  rcases run_follows_history aliasOperations with ⟨hget, -, hupdate, hkey⟩
  refine ⟨(hget _).trans (by decide), (hget _).trans (by decide), ?_, ?_⟩
  · exact (hupdate [120] (refill [])).1.trans (List.mergeSort_singleton _)
  · exact hkey [120] (by decide) (by decide) _ (by decide)

end Store

end CallLight
