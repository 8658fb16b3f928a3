import NodeStack.Proofs.Exchange.Framing
import NodeStack.Proofs.Json.Document
import NodeStack.Proofs.Launcher.Deadline

/-!
# `NodeStack.Proofs.Launcher.Info`: what a launcher says of the stack is what its caller is told

A launcher may give its information as a JSON value, or as the text of one. The text is a text
within a frame: it is quoted there, read back, and read once more as a document of its own. A value
in a text may be nested as deep as any document, and one that stands in the frame itself one level
less.

* `Carries`: a result stands for a value, as its text or as itself.
* `conclude_carried`, `conclude_malformed`, `conclude_remote`: what a call for information comes to
  that was answered.
* `Pending`, `Fed`: a call that can still be answered, and a text that came to it then.
* `Clocked.poll_of_heard`: a call that was fed its response ends with it, at the first look at which
  its frame has been queued or has a place in the outbox.
* `info_told`: both together, with the frames as a launcher may write them.
-/

set_option autoImplicit false

namespace NodeStack.Launcher

open Exchange (Frame Posted Response StandsAt answerTo?)
open Json (Canonical Tree)

/-! ### What an answer comes to -/

/-- A result stands for a value: it is the text of the value, or the value itself if that is no
text. -/
inductive Carries : Json → Json → Prop where
  | text {v : Json} (exact : Canonical v) (hdepth : v.depth < Tree.nestingLimit) :
    Carries (.str v.render) v
  | value {v : Json} (h : ∀ s, v ≠ .str s) : Carries v v

namespace Call

section
variable {id : Nat} {result error v : Json}

/-- The value is told that a result stands for. -/
theorem conclude_carried (h : Carries result v) :
    conclude .info ⟨id, result, .null⟩ = .ok v := by
  show Errand.interpret .info result = .ok v
  cases h with
  | @text v exact hdepth =>
    have hread : Json.parse? v.render = some v := by
      rw [Json.parse?, Json.render, String.toList_ofList, Json.ofChars?_write exact, if_pos hdepth]
    simp only [Errand.interpret, hread]
  | value h =>
    cases result with
    | str s => exact absurd rfl (h s)
    | _ => rfl

/-- A text that is no document cannot be read. -/
theorem conclude_malformed {s : String} (h : ¬Json.Grammar.Document s.toList) :
    conclude .info ⟨id, .str s, .null⟩ = .error (.malformed Json.unreadable) := by
  show Errand.interpret .info (.str s) = _
  simp only [Errand.interpret, Json.parse?_of_not_document h]

/-- The wording of an error: a text is its own, and any other value has its JSON text. -/
def wording : Json → String
  | .str s => s
  | other => other.render

/-- An error ends a call, whatever the result is. -/
theorem conclude_remote (errand : Errand) (h : error ≠ .null) :
    conclude errand ⟨id, result, error⟩ = .error (.exchange (.remote (wording error))) := by
  cases error with
  | null => exact absurd rfl h
  | _ => rfl

end

/-! ### A call that was answered -/

/-- The call has a place in the outbox of its session, and frames are taken from there. -/
def HasPlace (c : Call) (r : Roster) : Prop :=
  ∃ x, r.sessions.get? c.session = some x ∧ x.outbox.taken = true ∧
    x.outbox.hasPlace c.id = true

section
variable {x : Exchange} {id : Nat} {p : Response}

/-- A look at a call that was answered ends it, or sends its frame if it has a place for it. -/
theorem poll_of_place (h : StandsAt id (.given p) x) (htaken : x.outbox.taken = true)
    (hplace : x.outbox.hasPlace id = true) :
    (x.poll id).1 = .answered p ∨ (x.poll id).1 = .sent := by
  obtain ⟨call, hcall, -⟩ := h.1
  cases hsent : call.sent with
  | true => exact .inl ((Exchange.poll_of_given h).1 ⟨call, hcall, hsent⟩)
  | false =>
    rw [x.poll_of_some id hcall, hsent, if_neg Bool.false_ne_true]
    rcases x.trySend_cases id call with ⟨hno, -⟩ | ⟨-, -, he⟩ | ⟨-, hno, -⟩
    · rw [htaken] at hno
      cases hno
    · exact .inr (by rw [he])
    · rw [hplace] at hno
      cases hno

/-- A look ends a call that was answered, once its frame has been sent or can be: it sends the frame
and looks again. -/
theorem look_of_given (h : StandsAt id (.given p) x)
    (hsent : Posted id x ∨ x.outbox.taken = true ∧ x.outbox.hasPlace id = true) :
    (look id x).1 = .answered p := by
  have hpoll : (x.poll id).1 = .answered p ∨ (x.poll id).1 = .sent := by
    rcases hsent with hposted | ⟨htaken, hplace⟩
    · exact .inl ((Exchange.poll_of_given h).1 hposted)
    · exact poll_of_place h htaken hplace
  rcases hpoll with he | he
  · rw [look_of_over (by rw [he]; rfl), he]
  · have hagain : look id x = (x.poll id).2.poll id := by
      unfold look
      split
      · next y hy => rw [hy]
      · next hno => exact (hno _ (Prod.ext he rfl)).elim
    have hstands : StandsAt id (.given p) (x.poll id).2 := by
      rcases Exchange.standsAt_poll h with ⟨hover, -⟩ | ⟨-, hstands⟩
      · rw [he] at hover
        cases hover
      · exact hstands
    rw [hagain]
    exact (Exchange.poll_of_given hstands).1 (Exchange.posted_of_poll he)

end

end Call

namespace Roster

/-- A call is pending: it is under way, and it has its slot, so it can still be answered. -/
def Pending (acts : List Act) (c : Call) (after : List Act) : Prop :=
  UnderWay acts c after ∧
    ∃ x, (empty.run acts).sessions.get? c.session = some x ∧ c.id ∈ x.slots

/-- A text came from the launcher of a call when the call was pending, and what was done since has
not ended the call. -/
def Fed (acts : List Act) (c : Call) (text : String) : Prop :=
  ∃ before after later, acts = before ++ .inbound c.session text :: later ∧
    Pending before c after ∧ Waits c later (empty.run (before ++ [.inbound c.session text]))

section
variable {acts after later : List Act} {c : Call} {now : Nat} {text : String} {p : Response}

/-- A run was on the clock from its beginning. -/
theorem Clocked.exists_before (h : Clocked now (acts ++ later)) :
    ∃ earlier, Clocked earlier acts := by
  generalize he : acts ++ later = all at h
  induction h generalizing later with
  | start => exact ⟨0, (List.append_eq_nil_iff.mp he).1 ▸ .start⟩
  | @act now all act h hact ih =>
    rcases List.eq_nil_or_concat later with rfl | ⟨more, last, rfl⟩
    · rw [List.append_nil] at he
      exact ⟨now, he ▸ .act h hact⟩
    · rw [List.concat_eq_append, ← List.append_assoc] at he
      exact ih (List.append_inj' he rfl).1
  | pass _ _ _ ih => exact ih he

theorem UnderWay.append (h : UnderWay acts c after) (hlater : Waits c later (empty.run acts)) :
    UnderWay (acts ++ later) c (after ++ later) := by
  obtain ⟨before, act, rfl, hstarted, hwaits⟩ := h
  refine ⟨before, act, by simp, hstarted, waits_append.mpr ⟨hwaits, ?_⟩⟩
  rwa [← run_append, List.append_assoc, List.singleton_append]

/-- What a call was given first is what it keeps. -/
theorem told_append_of_given (h : c.told after = .given p) (later : List Act) :
    c.told (after ++ later) = .given p := by
  induction later using List.reverseRecOn with
  | nil => rwa [List.append_nil]
  | append_singleton later act ih =>
    have hne : Exchange.Reply.given p ≠ .awaited := fun he => by cases he
    rw [← List.append_assoc, told_concat, ih]
    cases c.heard? act with
    | none => rfl
    | some e => rw [Option.elim_some, Exchange.hear_of_ne_awaited hne]

/-- A pending call is told what answers it. -/
theorem Clocked.told_of_fed (h : Clocked now acts) (hfed : Fed acts c text)
    (hanswer : answerTo? c.id text = some p) :
    ∃ after, UnderWay acts c after ∧ c.told after = .given p := by
  obtain ⟨before, after, later, rfl, ⟨hw, x, hx, hslot⟩, hlater⟩ := hfed
  obtain ⟨earlier, hbefore⟩ := h.exists_before
  -- having its slot, the call has not been told anything before
  obtain ⟨y, hy, hstands, -⟩ := hbefore.standsAt hw
  have hsame : x = y := Option.some.inj (hx.symm.trans hy)
  have hawaited : c.told after = .awaited := hstands.2.mp (hsame ▸ hslot)
  have hgiven : c.told (after ++ [.inbound c.session text]) = .given p := by
    rw [told_concat, hawaited]
    simp [Call.heard?, Exchange.hear, hanswer]
  have hends : ¬(Act.inbound c.session text).Ends c (empty.run before) := by
    rintro (he | ⟨t, outcome, he, -⟩) <;> cases he
  refine ⟨after ++ .inbound c.session text :: later, ?_, ?_⟩
  · have hstep : Waits c later ((empty.run before).step (.inbound c.session text)) := by
      rw [run_append] at hlater
      exact hlater
    exact hw.append ⟨hends, hstep⟩
  · rw [← List.singleton_append, ← List.append_assoc]
    exact told_append_of_given hgiven later

/-- A call that was fed its response when it was pending ends with it at the next look, once its
frame has been queued or has a place. -/
theorem Clocked.poll_of_heard (h : Clocked now acts) (hfed : Fed acts c text)
    (hanswer : answerTo? c.id text = some p)
    (hsent : Queued acts c ∨ c.HasPlace (empty.run acts)) (t : Nat) :
    (c.poll t (empty.run acts)).1 = .ended (Call.conclude c.errand p) := by
  obtain ⟨after, hw, htold⟩ := h.told_of_fed hfed hanswer
  obtain ⟨x, hx, hstands, -, hposted⟩ := h.standsAt hw
  rw [htold] at hstands
  have hlook : (Call.look c.id x).1 = .answered p := by
    refine Call.look_of_given hstands ?_
    rcases hsent with hqueued | ⟨y, hy, htaken, hplace⟩
    · exact .inl (hposted hqueued)
    · have hsame : y = x := Option.some.inj (hy.symm.trans hx)
      exact .inr (hsame ▸ ⟨htaken, hplace⟩)
  rw [poll_fst hx, hlook]
  rfl

end

/-! ### What a caller is told -/

/-- Whatever is done with launchers and calls, in whatever order, a call for information that was
pending when a response to it came ends with this response:

* without an error, with the value that the result stands for, as its text or as itself;
* without an error, as malformed if the result is a text that is not one complete document;
* with an error, as refused in the words of the error, whatever the result is.

It does so at the first look at which its frame has been queued, or has a place to be queued. Before
that, a call still waits to ask.

Any text will do that is read as the response, among them the members of one in any order, others
among them, those left out that are `null`. -/
theorem info_told :
    (∀ now acts (c : Call) text, Clocked now acts → c.errand = .info → Fed acts c text →
      Queued acts c ∨ c.HasPlace (empty.run acts) →
      ∀ result error, Frame.ofText? text = some (.response ⟨c.id, result, error⟩) → ∀ t,
        (error = .null → ∀ v, Carries result v →
          (c.poll t (empty.run acts)).1 = .ended (.ok v)) ∧
        (error = .null → ∀ s, result = .str s → ¬Json.Grammar.Document s.toList →
          ∃ detail, (c.poll t (empty.run acts)).1 = .ended (.error (.malformed detail))) ∧
        (error ≠ .null → (c.poll t (empty.run acts)).1 =
          .ended (.error (.exchange (.remote (Call.wording error)))))) ∧
    ∀ members (p : Response), p.Written members →
      Frame.ofText? (Json.renderRecord members) = some (.response p) := by
  refine ⟨fun now acts c text h hinfo hfed hsent result error hframe t => ?_,
    fun members p => Exchange.read_written⟩
  have hanswer : answerTo? c.id text = some ⟨c.id, result, error⟩ :=
    Exchange.answerTo?_eq_some.mpr ⟨hframe, rfl⟩
  rw [h.poll_of_heard hfed hanswer hsent t, hinfo]
  refine ⟨?_, ?_, fun herror => ?_⟩
  · rintro rfl v hv
    rw [Call.conclude_carried hv]
  · rintro rfl s rfl hs
    exact ⟨_, by rw [Call.conclude_malformed hs]⟩
  · rw [Call.conclude_remote .info herror]

/-- Information in a text, without an error; two documents in one text; and an error that is no text
next to them. -/
theorem info_told_thrice :
    let v : Json := .obj [("name", .str "\"a\\\n"), ("since", .arr [.num (.whole (-1)), .null])]
    let fate (members : List (String × Json)) : Fate :=
      ((⟨1, 1, .info, 10⟩ : Call).poll 10 (empty.run [.register 1, .call 1 0 10 .info,
        .inbound 1 (Json.renderRecord members)])).1
    fate [("result", .str v.render), ("id", Json.ofNat 1)] = .ended (.ok v) ∧
    (∃ detail, fate [("id", Json.ofNat 1), ("error", .null), ("result", .str "1 2")] =
      .ended (.error (.malformed detail))) ∧
    fate [("id", Json.ofNat 1), ("result", .str "1 2"), ("error", .arr [.null])] =
      .ended (.error (.exchange (.remote "[null]"))) := by
  intro v fate
  obtain ⟨htold, hwritten⟩ := info_told
  have hregistered : Clocked 0 [.register 1] := .act .start trivial
  have hasked : Clocked 0 [.register 1, .call 1 0 10 .info] := .act hregistered rfl
  have hpending : Pending [.register 1, .call 1 0 10 .info] ⟨1, 1, .info, 10⟩ [] :=
    ⟨⟨[.register 1], _, rfl, rfl, trivial⟩, _, rfl, List.mem_cons_self⟩
  have hqueued : ∀ text, Queued [.register 1, .call 1 0 10 .info, .inbound 1 text]
      ⟨1, 1, .info, 10⟩ := by
    intro text
    exact ⟨[.register 1, .call 1 0 10 .info], [.inbound 1 text], _, ⟨1, "getinfo", .arr []⟩, rfl,
      rfl, List.mem_cons_self, rfl⟩
  have hended := fun members result error (hp : Response.Written members ⟨1, result, error⟩) =>
    htold 0 [.register 1, .call 1 0 10 .info, .inbound 1 (Json.renderRecord members)]
      ⟨1, 1, .info, 10⟩ (Json.renderRecord members) (.act hasked trivial) rfl
      ⟨_, [], [], rfl, hpending, trivial⟩ (.inl (hqueued _)) result error (hwritten members _ hp) 10
  have hone : Canonical (Json.ofNat 1) := Exchange.canonical_ofNat (by decide)
  have hv : Canonical v := by
    refine .obj (by decide) ?_
    simp only [List.forall_mem_cons, List.not_mem_nil, false_imp_iff, implies_true, and_true]
    refine ⟨.str _, .arr ?_⟩
    simp only [List.forall_mem_cons, List.not_mem_nil, false_imp_iff, implies_true, and_true]
    exact ⟨.num ⟨by decide, by decide⟩, .null⟩
  have htwice : ¬Json.Grammar.Document "1 2".toList := by
    have hnone : Tree.ofChars? "1 2".toList = none := by cbv
    rw [← Tree.isSome_ofChars?_iff, hnone]
    exact Bool.false_ne_true
  refine ⟨?_, ?_, ?_⟩
  · have hp : Response.Written [("result", .str v.render), ("id", Json.ofNat 1)]
        ⟨1, .str v.render, .null⟩ := by
      refine ⟨?_, ?_, ⟨by decide, rfl⟩, .inr rfl, .inl ⟨rfl, rfl⟩, rfl⟩
      · simp [hone, Canonical.str]
      · simp [Json.depth, Json.ofNat, Tree.nestingLimit]
    exact (hended _ _ _ hp).1 rfl v (.text hv (by decide))
  · have hp : Response.Written [("id", Json.ofNat 1), ("error", .null), ("result", .str "1 2")]
        ⟨1, .str "1 2", .null⟩ := by
      refine ⟨?_, ?_, ⟨by decide, rfl⟩, .inr rfl, .inr rfl, rfl⟩
      · simp [hone, Canonical.str, Canonical.null]
      · simp [Json.depth, Json.ofNat, Tree.nestingLimit]
    exact (hended _ _ _ hp).2.1 rfl _ rfl htwice
  · have hp : Response.Written
        [("id", Json.ofNat 1), ("result", .str "1 2"), ("error", .arr [.null])]
        ⟨1, .str "1 2", .arr [.null]⟩ := by
      refine ⟨?_, ?_, ⟨by decide, rfl⟩, .inr rfl, .inr rfl, rfl⟩
      · simp [hone, Canonical.str, Canonical.null, Canonical.arr]
      · simp [Json.depth, Json.itemsDepth, Json.ofNat, Tree.nestingLimit]
    exact (hended _ _ _ hp).2.2 fun herror => by cases herror

end Roster

end NodeStack.Launcher
