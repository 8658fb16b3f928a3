import NodeStack.Proofs.Exchange.Matching
import NodeStack.Proofs.Json.Record

/-!
# `NodeStack.Proofs.Exchange.Reading`: what a frame of the other side is taken for

Both sides number their calls from one, so a request of the other side often carries the id of a
call that waits for its answer. It is told from an answer by its `method`. But a frame is read as a
response whenever it cannot be read as a request, and a response may carry members that it does not
know: the frame that was meant as a request, and has something wrong with it, may answer a call.

* `IsRequest`, `IsResponse`: what the members of an object have to be for either.
* `ofText?_request_iff`, `ofText?_response_iff`: what an object is read as.
* `Asks`: its `method` and `params` are as a request needs them. `IsResponse.asks_iff`: among the
  objects that could be responses, just these are requests.
* `receive_object`: what every object does to every exchange. `Asks` is what keeps an object from
  answering a call; carrying `method` is not (`answered_by_method`).
-/

set_option autoImplicit false

namespace NodeStack.Exchange

open Json (Tree valuesOf)

/-- What a field holds that is `null` unless it is given, and can be given once. -/
def Holds (values : List Tree) (v : Json) : Prop :=
  (values = [] ∧ v = .null) ∨ ∃ t, values = [t] ∧ t.json? = some v

/-- An id is given, once. -/
def Numbered (members : List (Option String × Tree)) (id : Nat) : Prop :=
  ∃ t, valuesOf (some "id") members = [t] ∧ idOf? t = some id

/-- The object with these members is a request. -/
structure IsRequest (members : List (Option String × Tree)) (r : Request) : Prop where
  readable : (Tree.obj members).json?.isSome
  id : Numbered members r.id
  method : ∃ t, valuesOf (some "method") members = [t] ∧ t.json? = some (.str r.method)
  params : Holds (valuesOf (some "params") members) r.params

/-- The object with these members could be a response. -/
structure IsResponse (members : List (Option String × Tree)) (p : Response) : Prop where
  readable : (Tree.obj members).json?.isSome
  id : Numbered members p.id
  result : Holds (valuesOf (some "result") members) p.result
  error : Holds (valuesOf (some "error") members) p.error

/-- One `method` is given, a text, and `params` at most once. -/
def Asks (members : List (Option String × Tree)) : Prop :=
  (∃ t method, valuesOf (some "method") members = [t] ∧ t.json? = some (.str method)) ∧
    (valuesOf (some "params") members).length ≤ 1

/-! ### Reading an object -/

section
variable {members : List (Option String × Tree)} {text : String} {r : Request} {p : Response}

theorem holds_iff {values : List Tree} {v : Json} :
    Holds values v ↔ values.length ≤ 1 ∧ valueOf? values.head? = some v := by
  match values with
  | [] => simp [Holds, valueOf?, eq_comm]
  | [t] => simp [Holds, valueOf?]
  | _ :: _ :: _ => simp [Holds]

theorem once_iff {α : Type} {values : List Tree} {read : Tree → Option α} {v : α} :
    (∃ t, values = [t] ∧ read t = some v) ↔
      values.length ≤ 1 ∧ values.head?.bind read = some v := by
  match values with
  | [] => simp
  | [t] => simp
  | _ :: _ :: _ => simp

theorem text?_bind_eq_some {t : Tree} {s : String} :
    t.json?.bind Json.text? = some s ↔ t.json? = some (.str s) := by
  cases t.json? with
  | none => simp
  | some v => cases v <;> simp [Json.text?]

/-- A record with three fields, none of them given twice, and what each is read as. -/
theorem record_iff {α β γ δ : Type} {a b c : String} (hnames : [a, b, c].Nodup)
    (h : (Tree.obj members).json?.isSome) {readA : Option Tree → Option α}
    {readB : Option Tree → Option β} {readC : Option Tree → Option γ} {make : α → β → γ → δ}
    {v : δ} :
    (((Tree.obj members).fields? [a, b, c]).bind fun
      | [ta, tb, tc] =>
        (readA ta).bind fun x => (readB tb).bind fun y => (readC tc).bind fun z => some (make x y z)
      | _ => none) = some v ↔
      ∃ x y z, make x y z = v ∧
        ((valuesOf (some a) members).length ≤ 1 ∧
          readA (valuesOf (some a) members).head? = some x) ∧
        ((valuesOf (some b) members).length ≤ 1 ∧
          readB (valuesOf (some b) members).head? = some y) ∧
        (valuesOf (some c) members).length ≤ 1 ∧
          readC (valuesOf (some c) members).head? = some z := by
  simp only [Option.bind_eq_some_iff, Json.Tree.fields?_obj hnames h, List.map_cons, List.map_nil,
    List.forall_mem_cons, List.not_mem_nil, false_imp_iff, implies_true, and_true]
  constructor
  · rintro ⟨fields, ⟨⟨ha, hb, hc⟩, rfl⟩, he⟩
    obtain ⟨x, hx, he⟩ := Option.bind_eq_some_iff.mp he
    obtain ⟨y, hy, he⟩ := Option.bind_eq_some_iff.mp he
    obtain ⟨z, hz, he⟩ := Option.bind_eq_some_iff.mp he
    exact ⟨x, y, z, Option.some.inj he, ⟨ha, hx⟩, ⟨hb, hy⟩, hc, hz⟩
  · rintro ⟨x, y, z, rfl, ⟨ha, hx⟩, ⟨hb, hy⟩, hc, hz⟩
    refine ⟨_, ⟨⟨ha, hb, hc⟩, rfl⟩, ?_⟩
    show (readA _).bind _ = _
    rw [hx, Option.bind_some, hy, Option.bind_some, hz, Option.bind_some]

theorem ofTree?_request_iff (h : (Tree.obj members).json?.isSome) :
    Request.ofTree? (.obj members) = some r ↔ IsRequest members r := by
  refine (record_iff (by decide) h).trans ?_
  simp only [← once_iff, text?_bind_eq_some, ← holds_iff]
  constructor
  · rintro ⟨id, method, params, rfl, hid, hmethod, hparams⟩
    exact ⟨h, hid, hmethod, hparams⟩
  · rintro ⟨-, hid, hmethod, hparams⟩
    exact ⟨r.id, r.method, r.params, rfl, hid, hmethod, hparams⟩

theorem ofTree?_response_iff (h : (Tree.obj members).json?.isSome) :
    Response.ofTree? (.obj members) = some p ↔ IsResponse members p := by
  refine (record_iff (by decide) h).trans ?_
  simp only [← once_iff, ← holds_iff]
  constructor
  · rintro ⟨id, result, error, rfl, hid, hresult, herror⟩
    exact ⟨h, hid, hresult, herror⟩
  · rintro ⟨-, hid, hresult, herror⟩
    exact ⟨p.id, p.result, p.error, rfl, hid, hresult, herror⟩

/-- An object is read as a request if it is one. -/
theorem ofText?_request_iff (ht : Tree.ofChars? text.toList = some (.obj members)) :
    Frame.ofText? text = some (.request r) ↔ IsRequest members r := by
  simp only [Frame.ofText?, ht, Option.bind_eq_bind, Option.bind_some]
  cases hj : (Tree.obj members).json? with
  | none =>
    refine iff_of_false (by simp) fun hr => ?_
    have hread := hr.readable
    rw [hj] at hread
    cases hread
  | some v =>
    rw [Option.bind_some, ← ofTree?_request_iff (by rw [hj]; rfl)]
    cases Request.ofTree? (.obj members) with
    | some r' => simp
    | none => simp

/-- An object is read as a response if it could be one, and is no request. -/
theorem ofText?_response_iff (ht : Tree.ofChars? text.toList = some (.obj members)) :
    Frame.ofText? text = some (.response p) ↔
      (∀ r, ¬IsRequest members r) ∧ IsResponse members p := by
  simp only [Frame.ofText?, ht, Option.bind_eq_bind, Option.bind_some]
  cases hj : (Tree.obj members).json? with
  | none =>
    refine iff_of_false (by simp) fun h => ?_
    have hread := h.2.readable
    rw [hj] at hread
    cases hread
  | some v =>
    have hread : (Tree.obj members).json?.isSome := by rw [hj]; rfl
    simp only [Option.bind_some, ← ofTree?_request_iff hread, ← ofTree?_response_iff hread]
    cases Request.ofTree? (.obj members) with
    | some r => simp
    | none => simp

/-- Of the objects that could be responses, just those are requests that ask for something. -/
theorem IsResponse.asks_iff (hp : IsResponse members p) :
    Asks members ↔ ∃ r, IsRequest members r := by
  constructor
  · -- any value within a readable object can be read, so whatever `params` there are will do
    rintro ⟨⟨t, method, hone, hmethod⟩, hparams⟩
    have hholds : ∃ params, Holds (valuesOf (some "params") members) params := by
      match hvalues : valuesOf (some "params") members with
      | [] => exact ⟨.null, Or.inl ⟨rfl, rfl⟩⟩
      | [t] =>
        have hmem : t ∈ valuesOf (some "params") members := by simp [hvalues]
        obtain ⟨v, hv⟩ := Option.isSome_iff_exists.mp
          (Json.Tree.isSome_json?_of_mem hp.readable hmem)
        exact ⟨v, Or.inr ⟨t, rfl, hv⟩⟩
      | _ :: _ :: _ => simp [hvalues] at hparams
    obtain ⟨params, hholds⟩ := hholds
    exact ⟨⟨p.id, method, params⟩, hp.readable, hp.id, ⟨t, hone, hmethod⟩, hholds⟩
  · rintro ⟨r, hr⟩
    obtain ⟨t, hone, hmethod⟩ := hr.method
    exact ⟨⟨t, r.method, hone, hmethod⟩, (holds_iff.mp hr.params).1⟩

end

/-! ### Taking in an object -/

section
variable {x : Exchange} {members : List (Option String × Tree)} {text : String}

theorem receive_of_request {r : Request} (ht : Tree.ofChars? text.toList = some (.obj members))
    (hr : IsRequest members r) : x.receive text = { x with listener := x.listener.hear r } := by
  simp only [receive, (ofText?_request_iff ht).mpr hr]

theorem answerTo?_of_object (ht : Tree.ofChars? text.toList = some (.obj members)) {p : Response} :
    answerTo? p.id text = some p ↔ IsResponse members p ∧ ¬Asks members := by
  rw [answerTo?_eq_some, ofText?_response_iff ht]
  constructor
  · rintro ⟨⟨hno, hp⟩, -⟩
    exact ⟨hp, fun hasks => (hp.asks_iff.mp hasks).elim hno⟩
  · rintro ⟨hp, hasks⟩
    exact ⟨⟨fun r hr => hasks (hp.asks_iff.mpr ⟨r, hr⟩), hp⟩, rfl⟩

/-- A slot belongs to a call that awaits its reply. -/
theorem Sound.awaited_of_mem (hx : Sound x) {id : Nat} (h : id ∈ x.slots) :
    StandsAt id .awaited x := by
  rcases hx.stands id with habsent | ⟨reply, hstands⟩
  · exact absurd h habsent.2
  · rwa [hstands.2.mp h] at hstands

/-- An object that is no request, and no answer to a call with a slot, is dropped. -/
theorem receive_of_neither (ht : Tree.ofChars? text.toList = some (.obj members))
    (hno : ∀ r, ¬IsRequest members r)
    (hp : ∀ p, IsResponse members p → p.id ∈ x.slots → Asks members) : x.receive text = x := by
  unfold receive
  split
  · next r hr => exact absurd ((ofText?_request_iff ht).mp hr) (hno r)
  · next p h =>
    -- an answer without effect; if a call had its slot, the object would be a request
    obtain ⟨-, hresponse⟩ := (ofText?_response_iff ht).mp h
    rcases x.answer_cases p with ⟨he, -⟩ | ⟨call, hm, -, -⟩
    · exact he
    · obtain ⟨r, hr⟩ := hresponse.asks_iff.mp (hp p hresponse hm)
      exact absurd hr (hno r)
  · rfl

end

/-- Whatever was done with an exchange, an object from the other side does one of three things:

* a request goes to whoever listens, and changes nothing else; if nobody listens, it is dropped;
* an object that could be the answer to a call with a slot, and does not ask for anything, answers
  that call and no other. Whether it carries `method` makes no difference: it does not ask either
  with a `method` that is no text or comes twice, nor with `params` that come twice;
* anything else is dropped.

So an object answers no call if it asks for something. -/
theorem receive_object (capacity : Nat) (listener : Listener) (acts : List Act) {text : String}
    {members : List (Option String × Tree)}
    (ht : Tree.ofChars? text.toList = some (.obj members)) :
    let x := (ofCapacity capacity listener).run acts
    (∀ r, IsRequest members r →
      (∀ received, x.listener = .listening received →
        x.receive text = { x with listener := .listening (received ++ [r]) }) ∧
      ((∀ received, x.listener ≠ .listening received) → x.receive text = x)) ∧
    (∀ p, IsResponse members p → p.id ∈ x.slots → ¬Asks members →
      StandsAt p.id (.given p) (x.receive text) ∧
      ∀ id, id ≠ p.id → Agrees id x (x.receive text)) ∧
    ((∀ r, ¬IsRequest members r) →
      (∀ p, IsResponse members p → p.id ∈ x.slots → Asks members) → x.receive text = x) := by
  intro x
  have hx : Sound x := sound_run (sound_ofCapacity capacity listener) acts
  refine ⟨fun r hr => ?_, fun p hp hslot hasks => ?_, receive_of_neither ht⟩
  · rw [receive_of_request ht hr]
    refine ⟨fun received hl => by rw [hl]; rfl, fun hl => ?_⟩
    have hsame : x.listener.hear r = x.listener := by
      cases hlistener : x.listener with
      | listening received => exact absurd hlistener (hl received)
      | absent | gone => rfl
    rw [hsame]
  · -- the call with the slot awaits its reply, so this is what it hears
    have hanswer : answerTo? p.id text = some p := (answerTo?_of_object ht).mpr ⟨hp, hasks⟩
    have hlast := standsAt_receive (hx.awaited_of_mem hslot) text
    rw [show hear p.id .awaited (.receive text) = .given p by simp [hear, hanswer]] at hlast
    refine ⟨hlast, fun id hid => agrees_receive (Option.eq_none_iff_forall_ne_some.mpr ?_)⟩
    exact fun other hother => hid (answerTo?_unique hother hanswer)

/-- The members of an object with a digit for its id, and two methods. -/
def askedTwice (digit : Nat) : List (Option String × Tree) :=
  [(some "id", .num ⟨false, [digit], none, none⟩), (some "method", .str (some "a")),
    (some "method", .str (some "b"))]

/-- While a call waits, a request with its id goes to whoever listens; with a second `method`, the
same frame ends the call; with another id, it is dropped. -/
theorem receive_object_repeated :
    let x := (ofCapacity 1 (.listening [])).run [.start "getinfo" .null]
    x.receive "\x7b\"id\":1,\"method\":\"a\"\x7d" =
      { x with listener := .listening [⟨1, "a", .null⟩] } ∧
    StandsAt 1 (.given ⟨1, .null, .null⟩)
      (x.receive "\x7b\"id\":1,\"method\":\"a\",\"method\":\"b\"\x7d") ∧
    x.receive "\x7b\"id\":2,\"method\":\"a\",\"method\":\"b\"\x7d" = x := by
  intro x
  have hrequest : IsRequest
      [(some "id", .num ⟨false, [1], none, none⟩), (some "method", .str (some "a"))]
      ⟨1, "a", .null⟩ :=
    ⟨by cbv, ⟨_, rfl, by cbv⟩, ⟨_, rfl, by cbv⟩, Or.inl ⟨rfl, rfl⟩⟩
  have htwice : ∀ digit, ¬Asks (askedTwice digit) := by
    rintro digit ⟨⟨t, method, ht, -⟩, -⟩
    cases ht
  have hresponse : IsResponse (askedTwice 1) ⟨1, .null, .null⟩ :=
    ⟨by cbv, ⟨_, rfl, by cbv⟩, Or.inl ⟨rfl, rfl⟩, Or.inl ⟨rfl, rfl⟩⟩
  obtain ⟨hasked, -, -⟩ := receive_object 1 (.listening []) [.start "getinfo" .null]
    (show Tree.ofChars? "\x7b\"id\":1,\"method\":\"a\"\x7d".toList = some (.obj _) by cbv)
  obtain ⟨-, hanswered, -⟩ := receive_object 1 (.listening []) [.start "getinfo" .null]
    (show Tree.ofChars? "\x7b\"id\":1,\"method\":\"a\",\"method\":\"b\"\x7d".toList =
      some (.obj (askedTwice 1)) by cbv)
  obtain ⟨-, -, hdropped⟩ := receive_object 1 (.listening []) [.start "getinfo" .null]
    (show Tree.ofChars? "\x7b\"id\":2,\"method\":\"a\",\"method\":\"b\"\x7d".toList =
      some (.obj (askedTwice 2)) by cbv)
  refine ⟨(hasked _ hrequest).1 [] rfl,
    (hanswered _ hresponse List.mem_cons_self (htwice 1)).1,
    hdropped (fun r hr => ?_) fun p hp hslot => ?_⟩
  · obtain ⟨t, ht, -⟩ := hr.method
    cases ht
  · obtain ⟨t, ht, hid⟩ := hp.id
    cases ht
    have htwo : idOf? (.num ⟨false, [2], none, none⟩) = some 2 := by cbv
    have hone : p.id = 1 := List.mem_singleton.mp hslot
    rw [hone] at hid
    cases htwo.symm.trans hid

/-- A frame with a `method` that is no text ends a call that waits. -/
theorem answered_by_method :
    let x := (ofCapacity 1 (.listening [])).run [.start "getinfo" .null]
    let text := "\x7b\"id\":1,\"method\":7\x7d"
    (∃ members t, Tree.ofChars? text.toList = some (.obj members) ∧
      (some "method", t) ∈ members) ∧
    1 ∈ x.slots ∧ (x.receive text).slots = [] ∧ (x.receive text).listener = .listening [] ∧
      ((x.receive text).poll 1).1 = .answered ⟨1, .null, .null⟩ := by
  intro x text
  have hread : Tree.ofChars? "\x7b\"id\":1,\"method\":7\x7d".toList =
      some (.obj [(some "id", .num ⟨false, [1], none, none⟩),
        (some "method", .num ⟨false, [7], none, none⟩)]) := by cbv
  have hframe : Frame.ofText? "\x7b\"id\":1,\"method\":7\x7d" =
      some (.response ⟨1, .null, .null⟩) := by cbv
  have hreceive : x.receive text = x.answer ⟨1, .null, .null⟩ := by
    simp only [receive, text, hframe]
  rw [hreceive]
  have hmethod := List.mem_cons_of_mem (some "id", Tree.num ⟨false, [1], none, none⟩)
    (List.mem_singleton_self (some "method", Tree.num ⟨false, [7], none, none⟩))
  exact ⟨⟨_, _, hread, hmethod⟩, List.mem_cons_self, rfl, rfl, rfl⟩

end NodeStack.Exchange
