import NodeStack.Launcher.Socket
import NodeStack.Proofs.Launcher.Deadline

/-!
# `NodeStack.Proofs.Launcher.Socket`: a socket leaves nothing behind

While a launcher is attached, its socket is read and written, others call it, and other launchers
come and go. Whatever ends the reading, the session has to go with it, and so have the calls on it.

* `Happening.acts`: what a happening comes to in acts of the roster, each of which names the session
  of the socket. `Comes` is what a happening can come to, and `comes_step`: it comes to one of these.
  `trace` puts a whole run in such acts, those of others among them, and `run_snd` says that this is
  all that becomes of the roster.
* `exists_deeds`: what an act adds to what has been done on the exchange of a session.
* `Serving`: the session of a socket is attached as long as the socket is read, and its exchange has
  received the texts that were read, is closed if the reading is over, and has lost its outbox if
  the writer is gone. `serving_after` is about one event, `serving_run` about any run.
* `look_of_closed`: on a closed exchange, a call is over at the next look or held back by the
  outbox.
* `socket_cleans_up`: all of it together.
-/

set_option autoImplicit false

namespace NodeStack

/-! ### Closed exchanges -/

namespace Exchange

section
variable {x : Exchange} {id : Nat}

/-- Frames are taken until somebody says that none will be. -/
theorem taken_run_iff (x : Exchange) (acts : List Act) :
    (x.run acts).outbox.taken = true ↔ x.outbox.taken = true ∧ Act.shut ∉ acts := by
  induction acts generalizing x with
  | nil => simp [run]
  | cons act rest ih =>
    show ((x.step act).run rest).outbox.taken = true ↔ _
    rw [ih, List.mem_cons, not_or]
    by_cases hact : act = .shut
    · subst hact
      exact iff_of_false (fun h => Bool.false_ne_true h.1) (fun h => h.2.1 rfl)
    · rw [taken_step hact]
      exact and_congr_right fun _ => (and_iff_right fun he => hact he.symm).symm

variable {reply : Reply}

/-- A call that was sent, and has been told something, is over at the next look. -/
theorem poll_of_posted (h : StandsAt id reply x) (hreply : reply ≠ .awaited) (hsent : Posted id x) :
    (x.poll id).1 = .failed .closed ∨ ∃ r, (x.poll id).1 = .answered r := by
  obtain ⟨⟨call, hcall, hsame⟩, -⟩ := h
  obtain ⟨call', hcall', hs⟩ := hsent
  rw [hcall] at hcall'
  cases hcall'
  rw [x.poll_of_some id hcall, if_pos hs]
  rcases x.pollSent_cases id call with ⟨ha, -⟩ | ⟨r, -, he⟩ | ⟨-, he⟩
  · exact absurd (hsame.symm.trans ha) hreply
  · exact .inr ⟨r, by rw [he]⟩
  · exact .inl (by rw [he])

/-- A call that is yet to be sent fails, waits for a place in the outbox, or is sent. -/
theorem poll_of_unsent {call : Call} (hcall : x.calls.get? id = some call)
    (hs : call.sent = false) :
    (x.poll id).1 = .failed .closed ∨ (x.poll id).1 = .blocked ∧ x.outbox.taken = true ∨
      (x.poll id).1 = .sent ∧ Posted id (x.step (.poll id)) := by
  have hstep : x.step (.poll id) = (x.poll id).2 := rfl
  rw [hstep, x.poll_of_some id hcall, hs, if_neg Bool.false_ne_true]
  rcases x.trySend_cases id call with ⟨-, he⟩ | ⟨-, -, he⟩ | ⟨ht, -, he⟩ <;> rw [he]
  · exact .inl rfl
  · exact .inr (.inr ⟨rfl, _, Table.get?_set_self _ _ _, rfl⟩)
  · exact .inr (.inl ⟨rfl, ht⟩)

end

/-- The texts among some acts that were received. -/
def received (acts : List Act) : List String :=
  acts.filterMap fun
    | .receive text => some text
    | _ => none

theorem received_eq_nil {acts : List Act} (h : ∀ text, .receive text ∉ acts) :
    received acts = [] := by
  refine List.filterMap_eq_nil_iff.mpr fun act hact => ?_
  cases act with
  | receive text => exact absurd hact (h text)
  | _ => rfl

end Exchange

namespace Launcher

open Exchange (Posted answerTo? received)
open Roster (Act Alike Grown UnderWay Made)

theorem Call.look_of_sent {x : Exchange} {id : Nat} (h : (x.poll id).1 = .sent) :
    look id x = (x.step (.poll id)).poll id := by
  show _ = (x.poll id).2.poll id
  unfold look
  cases hpoll : x.poll id with
  | mk progress y =>
    rw [hpoll] at h
    cases h
    rfl

/-- On an exchange without slots a call is over at the next look, or is held back by the outbox. -/
theorem Call.look_of_closed {x : Exchange} (hx : x.Sound) (hslots : x.slots = []) (id : Nat) :
    (look id x).1 = .failed .closed ∨ (∃ r, (look id x).1 = .answered r) ∨
      (x.poll id).1 = .blocked ∧ x.outbox.taken = true := by
  rcases hx.stands id with habsent | ⟨reply, hstands⟩
  · left
    rw [look, x.poll_of_none id habsent.1]
  · have hreply : reply ≠ .awaited := by
      intro he
      have hslot := hstands.2.mpr he
      rw [hslots] at hslot
      cases hslot
    have hover {progress : Exchange.Progress} (he : (x.poll id).1 = progress)
        (hp : progress.isOver = true) : (look id x).1 = progress := by
      rw [look_of_over (by rw [he]; exact hp), he]
    obtain ⟨call, hcall, -⟩ := hstands.1
    cases hs : call.sent with
    | true =>
      rcases Exchange.poll_of_posted hstands hreply ⟨call, hcall, hs⟩ with he | ⟨r, he⟩
      · exact .inl (hover he rfl)
      · exact .inr (.inl ⟨r, hover he rfl⟩)
    | false =>
      rcases Exchange.poll_of_unsent hcall hs with he | hblocked | ⟨hsent, hposted⟩
      · exact .inl (hover he rfl)
      · exact .inr (.inr hblocked)
      · -- the frame has just been put, and the second look asks for the answer
        rw [look_of_sent hsent]
        rcases Exchange.standsAt_poll hstands with ⟨hno, -⟩ | ⟨-, hafter⟩
        · rw [hsent] at hno
          cases hno
        · rcases Exchange.poll_of_posted hafter hreply hposted with he | he
          · exact .inl he
          · exact .inr (.inl he)

namespace Roster

/-! ### What an act adds to a session -/

/-- The texts that an act brings to a session. -/
def Act.textsFor (id : Nat) : Act → List String
  | .inbound s text => if s = id then [text] else []
  | _ => []

/-- The acts on a session that are for its own socket alone. -/
def Act.Reserved (id : Nat) : Act → Prop
  | .remove s | .inbound s _ | .take s | .shut s => s = id
  | _ => False

section
variable {r : Roster} {id : Nat} {x : Exchange}

/-- An act adds some deeds to what has been done on the exchange of a session: a text is received if
it is for the session, the exchange is closed if the session is removed, and its outbox is lost if
nobody is to take its frames. -/
theorem exists_deeds (h : Grown r) (act : Act) (hx : r.sessions.get? id = some x) :
    ∃ es, (r.step act).sessions.get? id = some (x.run es) ∧ received es = act.textsFor id ∧
      (.close ∈ es ↔ act = .remove id ∧ id ∈ r.attached) ∧ (.shut ∈ es ↔ act = .shut id) := by
  have hbegin : ∀ now deadline errand,
      received (Call.beginActs now deadline errand x) = [] ∧
        .close ∉ Call.beginActs now deadline errand x ∧
        .shut ∉ Call.beginActs now deadline errand x := by
    intro now deadline errand
    refine ⟨Exchange.received_eq_nil fun text hmem => ?_, fun hmem => ?_, fun hmem => ?_⟩ <;>
      rcases Call.mem_beginActs hmem with he | ⟨id, he | he⟩ <;> cases he
  rcases exists_step h act hx with ⟨htarget, hstep⟩ | ⟨htarget, hstep⟩
  · refine ⟨act.deeds x, hstep, ?_⟩
    cases act with
    | register => cases htarget
    | route now deadline errand | call s now deadline errand =>
      obtain ⟨hnone, hclose, hshut⟩ := hbegin now deadline errand
      exact ⟨hnone, iff_of_false hclose (by simp), iff_of_false hshut (by simp)⟩
    | remove s =>
      by_cases hs : s ∈ r.attached
      · rw [target, if_pos hs] at htarget
        cases htarget
        exact ⟨rfl, iff_of_true List.mem_cons_self ⟨rfl, hs⟩, by simp [Act.deeds]⟩
      · rw [target, if_neg hs] at htarget
        cases htarget
    | look now c =>
      refine ⟨Exchange.received_eq_nil fun text hmem => ?_, iff_of_false (fun hmem => ?_) (by simp),
        iff_of_false (not_shut_mem_lookActs _ _ _ _) (by simp)⟩ <;>
        rcases Call.mem_lookActs hmem with he | he <;> cases he
    | inbound s text =>
      cases htarget
      exact ⟨(if_pos rfl).symm, by simp [Act.deeds], by simp [Act.deeds]⟩
    | shut s =>
      cases htarget
      exact ⟨rfl, by simp [Act.deeds], by simp [Act.deeds]⟩
    | cancel | take => exact ⟨rfl, by simp [Act.deeds], by simp [Act.deeds]⟩
  · refine ⟨[], hstep, ?_, iff_of_false (by simp) ?_, iff_of_false (by simp) ?_⟩
    · cases act with
      | inbound s text =>
        have hs : s ≠ id := fun he => htarget (congrArg some he)
        exact (if_neg hs).symm
      | _ => rfl
    · rintro ⟨rfl, hmem⟩
      exact htarget (if_pos hmem)
    · rintro rfl
      exact htarget rfl

/-- A session that exists stays attached unless it is removed. -/
theorem mem_attached_step_iff (h : Grown r) (act : Act) (hx : r.sessions.get? id = some x) :
    id ∈ (r.step act).attached ↔ id ∈ r.attached ∧ act ≠ .remove id := by
  rw [mem_attached_step]
  refine or_iff_left ?_
  rintro ⟨capacity, -, hid⟩
  have hcount := (h id x hx).1
  omega

end

end Roster

namespace Socket

/-! ### A socket among others -/

/-- What goes on while a launcher is attached. -/
inductive Event where
  /-- Something happens to its socket. -/
  | own (h : Happening)
  /-- Something is done with the roster by others. -/
  | other (act : Act)

/-- A socket and the roster after an event. -/
def after (p : Socket × Roster) : Event → Socket × Roster
  | .own h => p.1.step h p.2
  | .other act => (p.1, p.2.step act)

/-- A socket and the roster after some events. -/
def run (events : List Event) (p : Socket × Roster) : Socket × Roster := events.foldl after p

/-- Whether an event ends the reading: the socket is closed, breaks or ends, or the gateway stops.
-/
def Event.leaves : Event → Bool
  | .own (.message .close) | .own (.message .failure) | .own (.message .ending) | .own .shutdown =>
    true
  | _ => false

/-- The text of an event that is a text message. -/
def Event.text? : Event → Option String
  | .own (.message (.text text)) => some text
  | _ => none

/-- The texts that come before the reading ends. -/
def textsRead (events : List Event) : List String :=
  (events.takeWhile (!·.leaves)).filterMap Event.text?

theorem textsRead_cons (event : Event) (rest : List Event) :
    textsRead (event :: rest) =
      if event.leaves then [] else event.text?.toList ++ textsRead rest := by
  cases h : event.leaves with
  | true => simp [textsRead, h]
  | false => cases ht : event.text? <;> simp [textsRead, h, ht]

theorem Event.text?_of_leaves {event : Event} (h : event.leaves = true) : event.text? = none := by
  cases event with
  | other act => rfl
  | own happening =>
    cases happening with
    | message m =>
      cases m with
      | text text => cases h
      | other | close | failure | ending => rfl
    | write | shutdown | halt => rfl

/-! ### In acts of the roster -/

/-- What a happening comes to in acts of the roster. -/
def Happening.acts (s : Socket) : Happening → List Act
  | .message (.text text) => if s.reading then [.inbound s.session text] else []
  | .message .other => []
  | .message .close | .message .failure | .message .ending | .shutdown =>
    if s.reading then [.remove s.session] else []
  | .write _ => if s.writer = .busy then [.take s.session] else []
  | .halt => if s.halting then [.shut s.session] else []

/-- What an event comes to in acts of the roster. -/
def Event.acts (s : Socket) : Event → List Act
  | .own h => h.acts s
  | .other act => [act]

/-- What some events come to in acts of the roster. -/
def trace : List Event → Socket × Roster → List Act
  | [], _ => []
  | event :: rest, p => event.acts p.1 ++ trace rest (after p event)

section
variable {s : Socket} {r : Roster} {id : Nat} {texts : List String} {p : Socket × Roster}

theorem writeNext_snd (succeeds : Bool) (s : Socket) (r : Roster) :
    (s.writeNext succeeds r).2 = r.step (.take s.session) := by
  have hmodify : (r.onSession s.session none takeFrame).2 = r.step (.take s.session) := by
    cases hx : r.sessions.get? s.session with
    | none =>
      rw [Roster.onSession_of_none _ _ hx]
      exact (Roster.modify_of_none (fun x => x.step .take) hx).symm
    | some x =>
      rw [Roster.onSession_of_some _ _ hx]
      exact (Roster.modify_of_some (fun x => x.step .take) hx).symm
  rw [← hmodify, writeNext]
  split
  · next h => rw [h]
  · next h =>
    rw [h]
    split <;> rfl

/-- Writing a frame leaves a writer that is not gone, and all else of the socket but the frames. -/
theorem writeNext_fst (succeeds : Bool) (s : Socket) (r : Roster) (hbusy : s.writer = .busy) :
    (s.writeNext succeeds r).1.session = s.session ∧
      (s.writeNext succeeds r).1.reading = s.reading ∧
      (s.writeNext succeeds r).1.writer ≠ .gone := by
  unfold writeNext
  split
  · exact ⟨rfl, rfl, by simp [hbusy]⟩
  · split
    · exact ⟨rfl, rfl, by simp [hbusy]⟩
    · exact ⟨rfl, rfl, by simp⟩

/-- What can come of a happening: the socket and the roster after it, and the acts that it takes. -/
inductive Comes (s : Socket) (r : Roster) : Happening → Socket × Roster → List Act → Prop where
  | nothing {h : Happening}
    (hidle : s.reading = true → (Event.own h).text? = none ∧ (Event.own h).leaves = false) :
    Comes s r h (s, r) []
  /-- A text is received. -/
  | receives (text : String) (hreading : s.reading = true) :
    Comes s r (.message (.text text)) (s, r.step (.inbound s.session text))
      [.inbound s.session text]
  /-- The reading ends. -/
  | leaves {h : Happening} (hleaves : (Event.own h).leaves = true) :
    Comes s r h (s.leave r) [.remove s.session]
  /-- A frame is taken, if there is one. -/
  | writes (succeeds : Bool) (hbusy : s.writer = .busy) :
    Comes s r (.write succeeds) (s.writeNext succeeds r) [.take s.session]
  /-- The writer goes away. -/
  | halts : Comes s r .halt (s.dismiss r) [.shut s.session]

theorem comes_step (h : Happening) (s : Socket) (r : Roster) :
    Comes s r h (s.step h r) (h.acts s) := by
  cases h with
  | message m =>
    rw [step]
    cases hr : s.reading with
    | false =>
      have hacts : Happening.acts s (.message m) = [] := by
        cases m <;> simp [Happening.acts, hr]
      rw [hacts]
      exact .nothing fun hread => absurd (hr.symm.trans hread) Bool.false_ne_true
    | true =>
      rw [if_pos rfl]
      cases m with
      | text text =>
        rw [Happening.acts, if_pos hr]
        exact .receives text hr
      | other => exact .nothing fun _ => ⟨rfl, rfl⟩
      | close | failure | ending =>
        rw [Happening.acts, if_pos hr]
        exact .leaves rfl
  | shutdown =>
    rw [step, Happening.acts]
    cases hr : s.reading with
    | false => exact .nothing fun hread => absurd (hr.symm.trans hread) Bool.false_ne_true
    | true => exact .leaves rfl
  | write succeeds =>
    rw [step, Happening.acts]
    split
    · next hbusy => exact .writes succeeds hbusy
    · exact .nothing fun _ => ⟨rfl, rfl⟩
  | halt =>
    rw [step, Happening.acts]
    split
    · exact .halts
    · exact .nothing fun _ => ⟨rfl, rfl⟩

theorem step_snd (h : Happening) (s : Socket) (r : Roster) : (s.step h r).2 = r.run (h.acts s) := by
  have hcomes := comes_step h s r
  generalize s.step h r = q, h.acts s = acts at hcomes ⊢
  cases hcomes with
  | nothing | receives | leaves | halts => rfl
  | writes succeeds => exact writeNext_snd succeeds s r

theorem trace_append (early late : List Event) (p : Socket × Roster) :
    trace (early ++ late) p = trace early p ++ trace late (run early p) := by
  induction early generalizing p with
  | nil => rfl
  | cons event rest ih =>
    rw [List.cons_append, trace, ih, trace, List.append_assoc]
    rfl

theorem run_snd (events : List Event) (p : Socket × Roster) :
    (run events p).2 = p.2.run (trace events p) := by
  induction events generalizing p with
  | nil => rfl
  | cons event rest ih =>
    have hafter : (after p event).2 = p.2.run (event.acts p.1) := by
      cases event with
      | own h => exact step_snd h p.1 p.2
      | other act => rfl
    rw [trace, Roster.run_append, ← hafter]
    exact ih (after p event)

/-! ### What is kept while a socket is served -/

/-- A socket and its session: the session is attached as long as the socket is read; its exchange
has received these texts, is closed if the reading is over, and has lost its outbox if the writer is
gone. -/
structure Serving (id : Nat) (texts : List String) (p : Socket × Roster) : Prop where
  session : p.1.session = id
  grown : p.2.Grown
  attached : id ∈ p.2.attached ↔ p.1.reading = true
  exchange : ∃ es, p.2.sessions.get? id =
      some ((Exchange.ofCapacity outboxCapacity (.listening [])).run es) ∧
    received es = texts ∧ (.close ∈ es ↔ p.1.reading = false) ∧
    (.shut ∈ es ↔ p.1.writer = .gone)

theorem serving_attach (h : r.Grown) : Serving (r.count + 1) [] (attach r) where
  session := rfl
  grown := Roster.grown_step h (.register outboxCapacity)
  attached := iff_of_true (List.mem_append_right _ List.mem_cons_self) rfl
  exchange := by
    refine ⟨[], Table.get?_set_self _ _ _, rfl, iff_of_false List.not_mem_nil ?_,
      iff_of_false List.not_mem_nil ?_⟩
    · exact Bool.true_eq_false.mp
    · exact nofun

/-- An act keeps a socket served if the socket has taken note of it. -/
theorem Serving.act (h : Serving id texts (s, r)) (act : Act) (s' : Socket)
    (hsession : s'.session = s.session)
    (hreading : s'.reading = true ↔ s.reading = true ∧ act ≠ .remove id)
    (hwriter : s'.writer = .gone ↔ s.writer = .gone ∨ act = .shut id) :
    Serving id (texts ++ act.textsFor id) (s', r.step act) := by
  obtain ⟨es, hx, hreceived, hclose, hshut⟩ := h.exchange
  obtain ⟨more, hstep, htexts, hcloses, hshuts⟩ := Roster.exists_deeds h.grown act hx
  refine ⟨hsession.trans h.session, Roster.grown_step h.grown act, ?_, es ++ more, ?_, ?_, ?_, ?_⟩
  · rw [Roster.mem_attached_step_iff h.grown act hx, h.attached, hreading]
  · rw [hstep, Exchange.run_append]
  · rw [received, List.filterMap_append, ← received, ← received, hreceived, htexts]
  · rw [List.mem_append, hclose, hcloses, h.attached, ← Bool.not_eq_true, ← Bool.not_eq_true,
      hreading]
    constructor
    · rintro (hno | ⟨rfl, -⟩)
      · exact fun hyes => hno hyes.1
      · exact fun hyes => hyes.2 rfl
    · intro hno
      by_cases hr : s.reading = true
      · exact .inr ⟨Classical.not_not.mp fun hact => hno ⟨hr, hact⟩, hr⟩
      · exact .inl hr
  · rw [List.mem_append, hshut, hshuts, hwriter]

/-- An act that brings no text. -/
theorem Serving.silent (h : Serving id texts (s, r)) (act : Act) (s' : Socket)
    (htexts : act.textsFor id = []) (hsession : s'.session = s.session)
    (hreading : s'.reading = true ↔ s.reading = true ∧ act ≠ .remove id)
    (hwriter : s'.writer = .gone ↔ s.writer = .gone ∨ act = .shut id) :
    Serving id texts (s', r.step act) := by
  have hstep := h.act act s' hsession hreading hwriter
  rwa [htexts, List.append_nil] at hstep

/-- What others do takes nothing of its own from a socket. -/
theorem Serving.other (h : Serving id texts (s, r)) {act : Act} (hact : ¬act.Reserved id) :
    Serving id texts (s, r.step act) := by
  have htexts : act.textsFor id = [] := by
    cases act with
    | inbound s text => exact if_neg hact
    | _ => rfl
  have hremove : act ≠ .remove id := by
    rintro rfl
    exact hact rfl
  have hshut : act ≠ .shut id := by
    rintro rfl
    exact hact rfl
  exact h.silent act s htexts rfl (by simp [hremove]) (by simp [hshut])

/-- A happening keeps a socket served. While it is read, texts are received. -/
theorem Serving.own (h : Serving id texts (s, r)) (happening : Happening) :
    Serving id (texts ++ if s.reading then (Event.own happening).text?.toList else [])
      (s.step happening r) := by
  obtain rfl := h.session
  have hsame {q : Socket × Roster} (hq : Serving s.session texts q)
      (hnone : s.reading = true → (Event.own happening).text? = none) :
      Serving s.session
        (texts ++ if s.reading then (Event.own happening).text?.toList else []) q := by
    split
    · next hreading => rwa [hnone hreading, Option.toList_none, List.append_nil]
    · rwa [List.append_nil]
  have hcomes := comes_step happening s r
  generalize s.step happening r = q, happening.acts s = acts at hcomes ⊢
  cases hcomes with
  | nothing hidle => exact hsame h fun hr => (hidle hr).1
  | receives text hreading =>
    have hstep := h.act (.inbound s.session text) s rfl (by simp) (by simp)
    rw [show (Act.inbound s.session text).textsFor s.session = [text] from if_pos rfl] at hstep
    rwa [if_pos hreading]
  | leaves hleaves =>
    refine hsame ?_ fun _ => Event.text?_of_leaves hleaves
    exact h.silent (.remove s.session) { s with reading := false } rfl rfl (by simp) (by simp)
  | writes succeeds hbusy =>
    refine hsame ?_ fun _ => rfl
    obtain ⟨hsession, hreading, hwriter⟩ := writeNext_fst succeeds s r hbusy
    have hstep := h.silent (.take s.session) _ rfl hsession (by simp [hreading])
      (by simp [hwriter, hbusy])
    rwa [← writeNext_snd succeeds s r] at hstep
  | halts =>
    refine hsame ?_ fun _ => rfl
    exact h.silent (.shut s.session) { s with writer := .gone } rfl rfl (by simp) (by simp)

theorem serving_after (h : Serving id texts p) {event : Event}
    (hother : ∀ act, event = .other act → ¬act.Reserved id) :
    Serving id (texts ++ if p.1.reading then event.text?.toList else []) (after p event) := by
  obtain ⟨s, r⟩ := p
  cases event with
  | own happening => exact h.own happening
  | other act =>
    rw [show (Event.other act).text? = none from rfl, Option.toList_none, ite_self,
      List.append_nil]
    exact h.other (hother act rfl)

/-- The reading goes on until an event ends it. -/
theorem reading_after (p : Socket × Roster) (event : Event) :
    (after p event).1.reading = (p.1.reading && !event.leaves) := by
  obtain ⟨s, r⟩ := p
  cases event with
  | other act => exact (Bool.and_true _).symm
  | own happening =>
    show (s.step happening r).1.reading = (s.reading && !(Event.own happening).leaves)
    have hcomes := comes_step happening s r
    generalize s.step happening r = q, happening.acts s = acts at hcomes ⊢
    cases hcomes with
    | nothing hidle =>
      cases hr : s.reading with
      | false => rfl
      | true => rw [(hidle hr).2, Bool.not_false, Bool.and_true]
    | receives | halts => exact (Bool.and_true _).symm
    | leaves hleaves =>
      rw [hleaves, Bool.not_true, Bool.and_false]
      rfl
    | writes succeeds hbusy =>
      exact (writeNext_fst succeeds s r hbusy).2.1.trans (Bool.and_true _).symm

theorem reading_run (events : List Event) (p : Socket × Roster) :
    (run events p).1.reading = (p.1.reading && !events.any (·.leaves)) := by
  induction events generalizing p with
  | nil => exact (Bool.and_true _).symm
  | cons event rest ih =>
    show (run rest (after p event)).1.reading = _
    rw [ih, reading_after, List.any_cons, Bool.not_or, Bool.and_assoc]

theorem serving_run (h : Serving id texts p) {events : List Event}
    (hothers : ∀ act, .other act ∈ events → ¬act.Reserved id) :
    Serving id (texts ++ if p.1.reading then textsRead events else []) (run events p) := by
  induction events generalizing texts p with
  | nil =>
    rw [show textsRead [] = [] from rfl, ite_self, List.append_nil]
    exact h
  | cons event rest ih =>
    have hafter := serving_after h fun act (he : event = .other act) =>
      hothers act (he ▸ List.mem_cons_self)
    have hrun := ih hafter fun act hact => hothers act (List.mem_cons_of_mem _ hact)
    have htexts : (texts ++ if p.1.reading then event.text?.toList else []) ++
        (if (after p event).1.reading then textsRead rest else []) =
        texts ++ if p.1.reading then textsRead (event :: rest) else [] := by
      rw [List.append_assoc, reading_after, textsRead_cons]
      cases p.1.reading with
      | false => rfl
      | true =>
        cases hleaves : event.leaves with
        | false => rfl
        | true =>
          simp [Event.text?_of_leaves hleaves]
    rw [htexts] at hrun
    exact hrun

/-- A writer that is to go away is gone afterwards. -/
theorem writer_of_halt (hleft : p.1.reading = false) :
    (after p (.own .halt)).1.writer = .gone := by
  obtain ⟨s, r⟩ := p
  dsimp only at hleft
  show (if s.halting then s.dismiss r else (s, r)).1.writer = .gone
  cases hw : s.writer with
  | gone => simp [halting, hw]
  | busy | closing => simp [halting, hw, hleft, Socket.dismiss]

/-! ### Calls and other sessions -/

/-- The calls on a socket that has been left: whoever was not answered in time is told so at the
next look, or waits for a place in the outbox, which is there as long as the writer. -/
theorem Serving.poll_of_left (h : Serving id texts p) {acts : List Act}
    (hrun : p.2 = Roster.empty.run acts) (hleft : p.1.reading = false) {c : Call}
    {since : List Act} (hmade : Made acts c since) (hc : c.session = id)
    (hanswer : ∀ text, .inbound id text ∈ since → answerTo? c.id text = none) (now : Nat) :
    (c.poll now p.2).1 = .ended (.error (.exchange .closed)) ∨
      (p.1.writer ≠ .gone ∧ ∃ x, p.2.sessions.get? id = some x ∧ (x.poll c.id).1 = .blocked) := by
  obtain ⟨es, hx, -, -, hshut⟩ := h.exchange
  have hdetached : id ∉ p.2.attached := by
    rw [h.attached, hleft]
    exact Bool.false_ne_true
  have hpoll := congrArg Prod.fst (Call.poll_eq now c p.2)
  rw [hc, hx, Option.elim_some] at hpoll
  rw [hpoll]
  rcases Call.look_of_closed (h.grown.sound hx) (h.grown.slots_eq_nil hx hdetached) c.id with
    hlook | ⟨response, hlook⟩ | ⟨hblocked, htaken⟩
  · left
    rw [hlook]
    rfl
  · -- an answer is the text of the launcher since the call was begun
    obtain ⟨x₀, x₁, first, earlier, later, hsound, hbegan, hget, hlater⟩ := hmade.began
    rw [← hrun, hc, hx] at hget
    rw [Option.some.inj hget] at hlook
    obtain ⟨text, htext, hgiven⟩ := Call.look_answered hbegan hsound hlook
    have hinbound := hlater text htext
    rw [hc] at hinbound
    rw [hanswer text hinbound] at hgiven
    cases hgiven
  · right
    refine ⟨fun hgone => ?_, _, hx, hblocked⟩
    exact ((Exchange.taken_run_iff _ es).mp htaken).2 (hshut.mpr hgone)

/-- What happens to a socket leaves every other session as it is. -/
theorem alike_step (happening : Happening) (s : Socket) (r : Roster) {t : Nat}
    (ht : t ≠ s.session) : Alike t (s.step happening r).2 r := by
  have hsame : Alike t r r := ⟨rfl, Iff.rfl, rfl⟩
  have hnamed {act : Act} (hact : act.session? = some s.session) : Alike t (r.run [act]) r :=
    Roster.alike_of_session hact ht
  rw [step_snd]
  have hcomes := comes_step happening s r
  generalize s.step happening r = q, happening.acts s = acts at hcomes ⊢
  cases hcomes with
  | nothing => exact hsame
  | receives | leaves | writes | halts => exact hnamed rfl

end

end Socket

namespace Roster

theorem UnderWay.made {acts since : List Act} {c : Call} (h : UnderWay acts c since) :
    Made acts c since := by
  obtain ⟨before, act, he, hstarted, -⟩ := h
  obtain ⟨now, hact, -⟩ := opens_of_started? hstarted
  rcases hact with rfl | ⟨rfl, -⟩
  · exact ⟨before, now, .inl ⟨he, Option.some.inj hstarted⟩⟩
  · exact ⟨before, now, .inr ⟨he, Option.some.inj hstarted⟩⟩

end Roster

namespace Socket

/-! ### A socket that is served -/

/-- Whatever has been done with a roster before, a launcher attaches itself, and then its socket
gets any messages, frames are written or cannot be, the gateway stops, and others do what they like,
but leave to the socket what is its own:

* it is given one session, with a number that no session had, and 64 places in its outbox. No other
  session changes;
* all that becomes of the roster is what the acts of the run make of it. The reading goes on until
  the socket is closed, breaks or ends, or the gateway stops;
* the session is attached exactly as long as the socket is read. Its exchange has received the texts
  that came before the reading ended, in order, and nothing else. It is closed exactly if the
  reading has ended, and then has no slot left;
* when the reading has ended, a call under way on the session that was not answered is told at the
  next look that the exchange is closed, unless it waits for a place in the outbox and the writer is
  still there;
* from the end of the reading on, the writer can go away at any time, so nobody waits for ever;
* nothing that happens to the socket, its end included, changes another session, whether it is
  attached, or the fate of a call there, and no session is added. -/
theorem socket_cleans_up (before : List Act) (events : List Event)
    (hothers : ∀ act, .other act ∈ events →
      ¬act.Reserved ((Roster.empty.run before).count + 1)) :
    let r₀ := Roster.empty.run before
    let id := r₀.count + 1
    let begun := attach r₀
    let p := run events begun
    let acts := before ++ .register 64 :: trace events begun
    (begun.1.session = id ∧ begun.2.attached = r₀.attached ++ [id] ∧
      r₀.sessions.get? id = none ∧
      ∀ t, begun.2.sessions.get? t =
        if t = id then some (Exchange.ofCapacity 64 (.listening [])) else r₀.sessions.get? t) ∧
    (p.2 = Roster.empty.run acts ∧ p.1.reading = !events.any (·.leaves)) ∧
    ((id ∈ p.2.attached ↔ p.1.reading = true) ∧
      ∃ es x, x = (Exchange.ofCapacity 64 (.listening [])).run es ∧
        p.2.sessions.get? id = some x ∧ received es = textsRead events ∧
        (x.closed = true ↔ p.1.reading = false) ∧ (p.1.reading = false → x.slots = [])) ∧
    (p.1.reading = false → ∀ c since, UnderWay acts c since → c.session = id →
      (∀ text, .inbound id text ∈ since → answerTo? c.id text = none) → ∀ now,
        (c.poll now p.2).1 = .ended (.error (.exchange .closed)) ∨
        (p.1.writer ≠ .gone ∧ ∃ x, p.2.sessions.get? id = some x ∧
          (x.poll c.id).1 = .blocked)) ∧
    (p.1.reading = false → (after p (.own .halt)).1.writer = .gone) ∧
    (∀ happening t, t ≠ id → Alike t (p.1.step happening p.2).2 p.2 ∧
      ∀ c : Call, c.session = t → ∀ now,
        (c.poll now (p.1.step happening p.2).2).1 = (c.poll now p.2).1) := by
  intro r₀ id begun p acts
  have hgrown : r₀.Grown := Roster.grown_run before
  have hserving : Serving id (textsRead events) p := serving_run (serving_attach hgrown) hothers
  have hrun : p.2 = Roster.empty.run acts := by
    rw [Roster.run_append]
    exact run_snd events begun
  obtain ⟨es, hx, hreceived, hclose, -⟩ := hserving.exchange
  refine ⟨⟨rfl, rfl, ?_, r₀.get?_register 64⟩, ⟨hrun, reading_run events begun⟩,
    ⟨hserving.attached, es, _, rfl, hx, hreceived, ?_, ?_⟩, ?_, writer_of_halt, ?_⟩
  · -- a session that exists has a number that was given
    cases hold : r₀.sessions.get? id with
    | none => rfl
    | some x => exact absurd (hgrown id x hold).1 (Nat.not_succ_le_self _)
  · rw [Exchange.closed_run, hclose]
    exact or_iff_right Bool.false_ne_true
  · intro hleft
    refine hserving.grown.slots_eq_nil hx ?_
    rw [hserving.attached, hleft]
    exact Bool.false_ne_true
  · intro hleft c since hunder hc hanswer now
    exact hserving.poll_of_left hrun hleft hunder.made hc hanswer now
  · intro happening t ht
    have halike : Alike t (p.1.step happening p.2).2 p.2 :=
      alike_step happening p.1 p.2 (hserving.session ▸ ht)
    refine ⟨halike, ?_⟩
    rintro c rfl now
    exact Call.poll_congr halike.session now

/-- A launcher is called, sends a text that answers nothing, cannot be written to, and the gateway
stops. The caller is told so. The answer that comes late is not read. -/
theorem socket_cleans_up_shutdown :
    let c : Call := ⟨2, 1, .info, 10⟩
    let events : List Event := [.other (.call 2 0 10 .info), .own (.message (.text "[]")),
      .own (.message .other), .own (.write false), .own .shutdown,
      .own (.message (.text "[1,null,null]")), .own .halt]
    let p := run events (attach (Roster.empty.run [.register 1]))
    let since : List Act := [.inbound 2 "[]", .take 2, .remove 2, .shut 2]
    (∀ act, .other act ∈ events → ¬act.Reserved 2) ∧
    UnderWay (.register 1 :: .register 64 :: .call 2 0 10 .info :: since) c since ∧
    (∀ text, .inbound 2 text ∈ since → answerTo? c.id text = none) ∧
    p.1.reading = false ∧ p.1.writer = .gone ∧ 2 ∉ p.2.attached ∧ textsRead events = ["[]"] ∧
    (c.poll 20 p.2).1 = .ended (.error (.exchange .closed)) := by
  intro c events p since
  have hothers : ∀ act, .other act ∈ events → ¬act.Reserved 2 := by
    intro act hact
    obtain rfl : act = .call 2 0 10 .info := by simpa [events] using hact
    exact not_false
  obtain ⟨-, ⟨-, hreading⟩, ⟨hattached, -⟩, hcalls, -⟩ :=
    socket_cleans_up [.register 1] events hothers
  have hleft : p.1.reading = false := hreading
  -- the text is read once, so that the rest computes without the reader
  have hunread : Exchange.Frame.ofText? "[]" = none := by cbv
  have hreceive : Exchange.receive "[]" = fun x => x := by
    funext x
    rw [Exchange.receive, hunread]
  let early : List Event := [.other (.call 2 0 10 .info), .own (.message (.text "[]"))]
  let late : List Event := [.own (.message .other), .own (.write false), .own .shutdown,
    .own (.message (.text "[1,null,null]")), .own .halt]
  have hearly : run early (attach (Roster.empty.run [.register 1])) =
      (⟨2, true, .busy, []⟩, (Roster.empty.run [.register 1, .register 64,
        .call 2 0 10 .info]).modify 2 (Exchange.receive "[]")) := rfl
  rw [hreceive] at hearly
  have hgone : p.1.writer = .gone := by
    show (run (early ++ late) (attach (Roster.empty.run [.register 1]))).1.writer = .gone
    rw [show run (early ++ late) _ = run late (run early _) from List.foldl_append, hearly]
    rfl
  have htrace : trace (early ++ late) (attach (Roster.empty.run [.register 1])) =
      .call 2 0 10 .info :: since := by
    rw [trace_append, hearly]
    rfl
  have hunder : UnderWay (.register 1 :: .register 64 :: .call 2 0 10 .info :: since) c since :=
    ⟨[.register 1, .register 64], .call 2 0 10 .info, rfl, rfl, by
      simp [Roster.Waits, Act.Ends, since]⟩
  have hanswer : ∀ text, .inbound 2 text ∈ since → answerTo? c.id text = none := by
    intro text htext
    obtain rfl : text = "[]" := by simpa [since] using htext
    rw [answerTo?, hunread]
  refine ⟨hothers, hunder, hanswer, hleft, hgone, ?_, rfl, ?_⟩
  · intro hmem
    have hyes := hattached.mp hmem
    rw [hreading] at hyes
    cases hyes
  · rw [show trace events _ = _ from htrace] at hcalls
    rcases hcalls hleft c since hunder rfl hanswer 20 with he | ⟨hno, -⟩
    · exact he
    · exact absurd hgone hno

end Socket

end Launcher

end NodeStack
