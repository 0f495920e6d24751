import CallLight.Proofs.Document.Buffer
import CallLight.Proofs.Server.Documents

/-!
# The server follows the editor

The reference is an editor that keeps one buffer of UTF-16 units for each document and edits it the
way its user does. The server is told of the edits. We show that the store holds a document if and
only if the editor has a buffer for it, and that the two stand for the same characters, after every
message of a session (`run_follows_editor`).

The invariant is `Follows`. One message keeps it (`Follows.react`), because a change that the editor
may send does the same to the text as to the buffer (`Buffer.applyAll_ofChars`) and the store puts a
changed document back under the key it was found under (`Store.Keyed`).
-/

namespace CallLight

/-! ## The reference -/

/-- The buffers of an editor, by the keys of their documents. -/
structure Editor where
  buffers : Text → Option Buffer

namespace Editor

/-- An editor that has nothing open. -/
def empty : Editor := ⟨fun _ => none⟩

/-- Replaces what stands under a key. -/
def set (e : Editor) (key : Text) (b : Option Buffer) : Editor :=
  ⟨fun k => if key = k then b else e.buffers k⟩

/-- What the editor does when it sends a message. Changes and saves of a document that is not open
do nothing. -/
def step (e : Editor) : Message → Editor
  | .didOpen d => e.set d.uri.key (some (.ofText d.content))
  | .didChange u _ changes => e.set u.key ((e.buffers u.key).map (changes.foldl Buffer.edit))
  | .didSave u (some text) => e.set u.key ((e.buffers u.key).map fun _ => .ofText text)
  | .didClose u => e.set u.key none
  | _ => e

def run (e : Editor) (ms : List Message) : Editor := ms.foldl step e

/-- A message that the editor may send: its texts are well-formed, and so are the changes of a
document that is open. -/
def MaySend (e : Editor) : Message → Prop
  | .didOpen d => d.content.isValid = true
  | .didChange u _ changes => ∀ b ∈ e.buffers u.key, Change.AllProper changes b
  | .didSave _ (some text) => text.isValid = true
  | _ => True

/-- Messages that the editor may send one after the other. -/
def MaySendAll : Editor → List Message → Prop
  | _, [] => True
  | e, m :: ms => e.MaySend m ∧ MaySendAll (e.step m) ms

end Editor

/-- A document and a buffer that stand for the same characters. -/
def Document.Shows (d : Document) (b : Buffer) : Prop :=
  ∃ cs, d.content = Text.ofChars cs ∧ b = Buffer.ofChars cs

/-- The store holds what the editor has open, each document under its own key. -/
structure Store.Follows (s : Store) (e : Editor) : Prop where
  keyed : s.Keyed
  agree : ∀ key, Option.Rel Document.Shows (s.lookup key) (e.buffers key)

theorem Document.shows_ofText {d : Document} (h : d.content.isValid = true) :
    d.Shows (.ofText d.content) := by
  rcases Text.isValid_iff.mp h with ⟨cs, hcs⟩
  exact ⟨cs, hcs, by rw [hcs, Buffer.ofText_ofChars]⟩

theorem Editor.buffers_set (e : Editor) (key : Text) (b : Option Buffer) (k : Text) :
    (e.set key b).buffers k = if key = k then b else e.buffers k := rfl

theorem Editor.set_buffers (e : Editor) (key : Text) : e.set key (e.buffers key) = e := by
  unfold Editor.set
  congr 1
  funext k
  split
  next hk => rw [hk]
  next => rfl

namespace Store

theorem follows_empty : empty.Follows .empty :=
  ⟨keyed_empty, fun _ => .none⟩

/-! ## One message -/

theorem Follows.insert {s : Store} {e : Editor} (h : s.Follows e) {d : Document} {b : Buffer}
    (hd : d.Shows b) : (s.insert d).Follows (e.set d.uri.key (some b)) := by
  refine ⟨h.keyed.insert d, fun key => ?_⟩
  rw [lookup_insert, Editor.buffers_set]
  split
  · exact .some hd
  · exact h.agree key

theorem Follows.erase {s : Store} {e : Editor} (h : s.Follows e) (u : Uri) :
    (s.erase u).Follows (e.set u.key none) := by
  refine ⟨h.keyed.erase u, fun key => ?_⟩
  rw [lookup_erase, Editor.buffers_set]
  split
  · exact .none
  · exact h.agree key

/-- An update that keeps the URI and does to a document what the editor does to its buffer. -/
theorem Follows.update {s : Store} {e : Editor} (h : s.Follows e) (u : Uri)
    {f : Document → Except (Nat × InvertedRange) Document} {g : Buffer → Buffer}
    (hf : ∀ d, ∀ b ∈ e.buffers u.key, d.Shows b →
      ∃ d', f d = .ok d' ∧ d'.uri = d.uri ∧ d'.Shows (g b)) :
    ((s.update u f).toOption.getD s).Follows (e.set u.key ((e.buffers u.key).map g)) := by
  have hagree := h.agree u.key
  rcases hd : s.lookup u.key with _ | d
  · -- nothing is open under the key, on either side
    rw [hd] at hagree
    rcases hb : e.buffers u.key with _ | b
    · rw [update_of_get?_eq_none hd, Option.map_none, ← hb, Editor.set_buffers]
      exact h
    · rw [hb] at hagree
      cases hagree
  · rw [hd] at hagree
    rcases hb : e.buffers u.key with _ | b
    · rw [hb] at hagree
      cases hagree
    rw [hb] at hagree
    cases hagree with
    | some hshows =>
      rcases hf d b hb hshows with ⟨d', hfd, huri, hd'⟩
      -- the document goes back under the key it was found under
      have hkey : d'.uri.key = u.key := by rw [huri, h.keyed u.key d hd]
      rw [update_of_ok hd hfd, Option.map_some, ← hkey]
      exact h.insert hd'

/-- A message that the editor may send keeps the store in step with it. -/
theorem Follows.react {s : Store} {e : Editor} (h : s.Follows e) {m : Message}
    (hm : e.MaySend m) : (s.react m).Follows (e.step m) := by
  cases m with
  | didOpen d => exact h.insert (Document.shows_ofText hm)
  | didChange u version changes =>
    refine h.update u fun d b hb hshows => ?_
    rcases hshows with ⟨cs, hcs, rfl⟩
    -- the changes do the same to the text as to the buffer
    rcases Buffer.applyAll_ofChars (hm _ hb) 0 with ⟨ds, happly, hfold⟩
    refine ⟨{ d with content := Text.ofChars ds, version }, ?_, rfl, ds, rfl, hfold⟩
    rw [Server.revise, hcs, happly]
  | didClose u => exact h.erase u
  | didSave u text =>
    cases text with
    | none => exact h
    | some content =>
      refine h.update u fun d b _ _ => ⟨{ d with content }, rfl, rfl, ?_⟩
      exact Document.shows_ofText (d := { d with content }) hm
  | _ => exact h

/-! ## Sessions -/

theorem Follows.foldl_react {s : Store} {e : Editor} (h : s.Follows e) {ms : List Message}
    (hms : e.MaySendAll ms) : (ms.foldl Store.react s).Follows (e.run ms) := by
  induction ms generalizing s e with
  | nil => exact h
  | cons m ms ih => exact ih (h.react hms.1) hms.2

end Store

theorem Editor.MaySendAll.take {e : Editor} {ms : List Message} (h : e.MaySendAll ms) (n : Nat) :
    e.MaySendAll (ms.take n) := by
  induction n generalizing e ms with
  | zero => exact trivial
  | succ n ih =>
    cases ms with
    | nil => exact trivial
    | cons m ms => exact ⟨h.1, ih h.2⟩

/-- The server follows the editor. Whatever the editor sends that it may send, short of `shutdown`,
after each message the server has a document if and only if the editor has a buffer for its key, and
the two stand for the same characters. -/
theorem run_follows_editor (config : Config) (version : String) (ms : List Message)
    (hshutdown : .shutdown ∉ ms) (hms : Editor.empty.MaySendAll ms) (n : Nat) (u : Uri) :
    Option.Rel Document.Shows
      (((Server.fresh config version).run (ms.take n)).documents.get? u)
      ((Editor.empty.run (ms.take n)).buffers u.key) := by
  have htake : .shutdown ∉ ms.take n := fun hmem => hshutdown (List.mem_of_mem_take hmem)
  have hfollows := Store.follows_empty.foldl_react (hms.take n)
  rw [Server.run_documents (s := Server.fresh config version) rfl htake]
  exact hfollows.agree u.key

/-- A session that opens `x😀`, breaks the line behind it and closes it again. -/
def emojiSession : List Message :=
  [.didOpen ⟨Text.ofChars ['u'], [], 1, Text.ofChars ['x', '😀']⟩,
    .didChange (Text.ofChars ['u']) 2 [⟨some ⟨⟨0, 3⟩, ⟨0, 9⟩⟩, Text.ofChars ['\n']⟩],
    .didClose (Text.ofChars ['u'])]

theorem run_follows_editor_emojiSession : Option.Rel Document.Shows
    (((Server.fresh .default "1").run (emojiSession.take 2)).documents.get? (Text.ofChars ['u']))
    ((Editor.empty.run (emojiSession.take 2)).buffers (Uri.key (Text.ofChars ['u']))) := by
  refine run_follows_editor .default "1" emojiSession (by simp [emojiSession]) ?_ 2 _
  refine ⟨Text.isValid_iff.mpr ⟨_, rfl⟩, fun b hb => ?_, trivial, trivial⟩
  have hbuffer : b = Buffer.ofChars ['x', '😀'] := by
    rw [← Buffer.ofText_ofChars]
    simpa [Editor.step, Editor.set, emojiSession] using hb.symm
  subst hbuffer
  refine ⟨⟨Text.isValid_iff.mpr ⟨_, rfl⟩, ?_, ?_, ?_⟩, trivial⟩ <;>
    simp only [Option.mem_def, Option.some.injEq, forall_eq'] <;> decide

end CallLight
