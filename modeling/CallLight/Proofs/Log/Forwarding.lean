import CallLight.Log.Forward

/-!
# What the editor is told

A history of a forwarder is a sequence of connections and records, and whether a message can be
delivered may change from one record to the next. It falls into epochs, from one connection to the
next. In each of them the messages tried are those of the records that are shown, up to the first
that is not delivered and with it (`attempts_eq_expected`).

An epoch begins with the same state whatever came before it, so a failure ends with its epoch; and
the first record of the history meets a forwarder that has no connection.
-/

namespace CallLight.Log

/-- A record that is logged, and whether a message can be delivered at that time. -/
structure Logged where
  level : Level
  text : String
  delivered : Bool
deriving DecidableEq, Repr

namespace Logged

/-- Shown are records with a text, from `debug` on, whose level says how severe they are. -/
def Shown (r : Logged) : Prop :=
  r.text ≠ "" ∧ Level.debug.code ≤ r.level.code ∧ r.level ≠ .none ∧ r.level ≠ .disabled

instance (r : Logged) : Decidable r.Shown :=
  inferInstanceAs (Decidable (_ ∧ _ ∧ _ ∧ _))

/-- The levels that have a kind of message of their own. -/
def messageTypes : List (Level × MessageType) :=
  [(.debug, .debug), (.info, .info), (.warn, .warning), (.error, .error), (.fatal, .error),
    (.panic, .error)]

/-- The message that shows a record. -/
def message (r : Logged) : Message :=
  ⟨(messageTypes.lookup r.level).getD .log, r.text⟩

/-- The records up to the first that is not delivered, and with it. -/
def upToFailure (rs : List Logged) : List Logged :=
  rs.takeWhile (·.delivered) ++ (rs.dropWhile (·.delivered)).take 1

end Logged

/-- What happens to a forwarder. -/
inductive Forwarder.Call where
  | setClient (connected : Bool)
  | record (r : Logged)
deriving DecidableEq, Repr

/-- The time from one connection to the next; there may be none to send to. -/
structure Epoch where
  connected : Bool
  records : List Logged
deriving DecidableEq, Repr

namespace Epoch

/-- The records before the next connection. -/
def leading : List Forwarder.Call → List Logged
  | [] => []
  | .setClient _ :: _ => []
  | .record r :: calls => r :: leading calls

/-- The epochs of a history. Records before the first connection are in none of them. -/
def ofCalls : List Forwarder.Call → List Epoch
  | [] => []
  | .setClient connected :: calls => ⟨connected, leading calls⟩ :: ofCalls calls
  | .record _ :: calls => ofCalls calls

/-- The messages that are tried in an epoch. -/
def expected (e : Epoch) : List Message :=
  if e.connected then (Logged.upToFailure (e.records.filter (·.Shown))).map Logged.message else []

end Epoch

/-! ## One record -/

theorem Level.eq_iff_code {l l' : Level} : l = l' ↔ l.code = l'.code := by
  cases l
  cases l'
  rw [Level.mk.injEq]

theorem isForwarded_iff_shown (r : Logged) : isForwarded r.level r.text = true ↔ r.Shown := by
  simp only [isForwarded, Logged.Shown, ne_eq, Level.eq_iff_code, Level.debug, Level.none,
    Level.disabled, Bool.and_eq_true, bne_iff_ne, decide_eq_true_eq, and_assoc]

theorem ofLevel_eq_lookup (l : Level) :
    MessageType.ofLevel l = (Logged.messageTypes.lookup l).getD .log := by
  by_cases hnamed : l ∈ Logged.messageTypes.map Prod.fst
  · simp only [Logged.messageTypes, List.map_cons, List.map_nil, List.mem_cons, List.not_mem_nil,
      or_false] at hnamed
    rcases hnamed with rfl | rfl | rfl | rfl | rfl | rfl <;> rfl
  · have hlookup : Logged.messageTypes.lookup l = none :=
      List.lookup_eq_none_iff.mpr fun p hp =>
        bne_iff_ne.mpr fun h => hnamed (h ▸ List.mem_map_of_mem hp)
    simp only [Logged.messageTypes, List.map_cons, List.map_nil, List.mem_cons, List.not_mem_nil,
      or_false, not_or, Level.eq_iff_code, Level.debug, Level.info, Level.warn, Level.error,
      Level.fatal, Level.panic] at hnamed
    obtain ⟨h0, h1, h2, h3, h4, h5⟩ := hnamed
    simp only [MessageType.ofLevel, hlookup, h0, h1, h2, h3, h4, h5]
    rfl

namespace Forwarder

/-- Whether messages are tried at all. -/
def isOpen (f : Forwarder) : Bool := f.connected && !f.broken

/-- Logs a record. -/
def step (f : Forwarder) (r : Logged) : Forwarder × Option Message :=
  f.forward r.delivered r.level r.text

theorem step_of_not_isOpen {f : Forwarder} (hf : f.isOpen = false) (r : Logged) :
    f.step r = (f, none) := by
  have hclosed : (f.broken || !f.connected) = true := by
    rw [isOpen] at hf
    rw [Bool.or_comm, ← Bool.not_not f.broken, ← Bool.not_and, hf, Bool.not_false]
  rw [step, forward, Bool.or_assoc, hclosed, Bool.or_true, if_pos rfl]

theorem step_of_not_shown (f : Forwarder) {r : Logged} (hr : ¬ r.Shown) : f.step r = (f, none) := by
  have hhidden : isForwarded r.level r.text = false :=
    Bool.eq_false_iff.mpr fun h => hr ((isForwarded_iff_shown r).mp h)
  rw [step, forward, hhidden, Bool.not_false, Bool.true_or, Bool.true_or, if_pos rfl]

theorem step_of_shown {f : Forwarder} (hf : f.isOpen = true) {r : Logged} (hr : r.Shown) :
    f.step r = (⟨true, !r.delivered⟩, some r.message) := by
  obtain ⟨hconnected, hbroken⟩ : f.connected = true ∧ f.broken = false := by
    simpa only [isOpen, Bool.and_eq_true, Bool.not_eq_true'] using hf
  rw [step, forward, (isForwarded_iff_shown r).mpr hr, hconnected, hbroken, ofLevel_eq_lookup]
  rfl

/-! ## The records of one epoch -/

/-- The messages tried for records that follow one another. -/
def tried (f : Forwarder) : List Logged → List Message
  | [] => []
  | r :: rs => (f.step r).2.toList ++ (f.step r).1.tried rs

theorem tried_of_not_isOpen {f : Forwarder} (hf : f.isOpen = false) (rs : List Logged) :
    f.tried rs = [] := by
  induction rs with
  | nil => rfl
  | cons r rs ih => rw [tried, step_of_not_isOpen hf, Option.toList_none, List.nil_append, ih]

theorem upToFailure_cons (r : Logged) (rs : List Logged) :
    Logged.upToFailure (r :: rs) = r :: if r.delivered then Logged.upToFailure rs else [] := by
  rw [Logged.upToFailure, List.takeWhile_cons, List.dropWhile_cons]
  cases r.delivered <;> rfl

/-- An open forwarder stays open until a message is not delivered. Then it is closed, also to
messages that could be delivered again. -/
theorem tried_of_isOpen {f : Forwarder} (hf : f.isOpen = true) (rs : List Logged) :
    f.tried rs = (Logged.upToFailure (rs.filter (·.Shown))).map Logged.message := by
  induction rs generalizing f with
  | nil => rfl
  | cons r rs ih =>
    rw [tried, List.filter_cons]
    by_cases hr : r.Shown
    · rw [step_of_shown hf hr, if_pos (decide_eq_true hr), upToFailure_cons, List.map_cons]
      refine congrArg (r.message :: ·) ?_
      cases r.delivered with
      | true => exact ih rfl
      | false => exact tried_of_not_isOpen rfl rs
    · rw [step_of_not_shown f hr, if_neg (by rwa [decide_eq_true_iff])]
      exact ih hf

theorem tried_setClient (e : Epoch) : (setClient e.connected).tried e.records = e.expected := by
  rw [Epoch.expected]
  cases e.connected with
  | true => exact tried_of_isOpen rfl e.records
  | false => exact tried_of_not_isOpen rfl e.records

/-! ## Whole histories -/

/-- The messages tried in the course of a history: first those before any connection, and then those
of each epoch. -/
def attempts (f : Forwarder) : List Call → List (List Message)
  | [] => [[]]
  | .setClient connected :: calls => [] :: (setClient connected).attempts calls
  | .record r :: calls =>
    ((f.step r).1.attempts calls).modifyHead ((f.step r).2.toList ++ ·)

theorem attempts_eq_tried (f : Forwarder) (calls : List Call) :
    f.attempts calls =
      f.tried (Epoch.leading calls) :: (Epoch.ofCalls calls).map Epoch.expected := by
  induction calls generalizing f with
  | nil => rfl
  | cons call calls ih =>
    cases call with
    | setClient connected =>
      rw [attempts, ih, Epoch.ofCalls, List.map_cons, ← tried_setClient]
      rfl
    | record r =>
      rw [attempts, ih]
      rfl

/-- In each epoch of a history that has a connection, the messages tried are those of the records
shown, in their order and each once, up to the first that is not delivered and with it. In an epoch
without a connection there are none, nor are there before the first. -/
theorem attempts_eq_expected (calls : List Call) :
    idle.attempts calls = [] :: (Epoch.ofCalls calls).map Epoch.expected := by
  rw [attempts_eq_tried, tried_of_not_isOpen rfl]

-- After a failure nothing more is tried, though it could be delivered, until the next connection.
example :
    idle.attempts
      [.record ⟨.info, "early", true⟩, .setClient true, .record ⟨.info, "ready", true⟩,
        .record ⟨.error, "lost", false⟩, .record ⟨.warn, "late", true⟩, .setClient true,
        .record ⟨.warn, "again", true⟩] =
      [[], [⟨.info, "ready"⟩, ⟨.error, "lost"⟩], [⟨.warning, "again"⟩]] := by
  decide

end Forwarder

end CallLight.Log
