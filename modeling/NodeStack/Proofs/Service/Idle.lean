import NodeStack.Proofs.Plan
import NodeStack.Service.Status

/-!
# `NodeStack.Proofs.Service.Idle`: services whose container does not run

A status asks what the container says, and goes on only if the container runs. Two kinds of service
ask something else first: a blockchain node reads the settings of the lightning node that works with
it, and an Ethereum node looks up which node is used.

* `interview_idle`: what most statuses do.
* `interview_mode`: a blockchain node reads the settings twice at most, and they say whether the
  node of this stack is used.
* `interview_chain`, `interview_ethereum`: these two kinds of service. A blockchain node calls
  nobody, and an Ethereum node nobody but a node elsewhere, once.
* `status_of_unwanted`: a service that is not wanted and has no container is `Disabled`, except a
  blockchain node whose lightning node does not say that it works with the node of this stack
  (`unwanted_without_partner`).
* `status_of_idle`: a service whose container does not run is never plainly `Ready`, and is left
  alone.
-/

set_option autoImplicit false

namespace NodeStack.Service

open Engine (Record)
open Plan (interview interview_bind)

/-- Answers to all questions, at every moment. -/
abbrev Answers := Nat → (q : Question) → q.Answer

variable {answer : Answers} {n : Nat} {around : Surroundings} {base : Base}

/-! ### Texts -/

theorem ne_of_first {a b : String} (h : a.toList.head? ≠ b.toList.head?) : a ≠ b :=
  fun he => h (he ▸ rfl)

/-- What is said of a container that does not run is no word of a service. -/
theorem text_ne_ready (h : base.isRunning = false) :
    base.text ≠ "Ready" ∧ base.text ≠ "Waiting for sync" := by
  cases base with
  | disabled => decide
  | missing => decide
  | stopped state =>
    have hfirst : (Base.stopped state).text.toList.head? = some 'C' := by
      simp [Base.text, toString]
    exact ⟨ne_of_first (by rw [hfirst]; decide), ne_of_first (by rw [hfirst]; decide)⟩
  | running => cases h

theorem error_ne (detail : String) :
    s!"Error: {detail}" ≠ "Ready" ∧ s!"Error: {detail}" ≠ "Waiting for sync" ∧
      s!"Error: {detail}" ≠ "Disabled" := by
  have hfirst : s!"Error: {detail}".toList.head? = some 'E' := by simp [toString]
  exact ⟨ne_of_first (by rw [hfirst]; decide), ne_of_first (by rw [hfirst]; decide),
    ne_of_first (by rw [hfirst]; decide)⟩

/-! ### What is asked -/

theorem interview_base {α : Type} (h : answer n .base = base) (f : Base → Inquiry α) :
    interview answer n (Inquiry.base >>= f) =
      ((interview answer (n + 1) (f base)).1, .base :: (interview answer (n + 1) (f base)).2) :=
  Plan.interview_question h f

/-- A status that asks about the container first, and has a text for one that does not run. -/
theorem interview_idle (h : answer n .base = base) (hidle : base.isRunning = false)
    (go : Base → Inquiry String) (idle : Base → String) :
    interview answer n (Inquiry.base >>= fun base =>
      if base.isRunning then go base else pure (idle base)) = (idle base, [.base]) := by
  rw [interview_base h, hidle]
  rfl

/-! ### Blockchain nodes -/

/-- The first value of a key, by what came of reading the file. -/
def valueIn (path key : String) (content : Except Fault String) : Except Fault String :=
  (content.bind (Lightning.settingsIn path key)).map fun values => values.headD ""

/-- What the settings of a lightning node say that works with the node of this stack: the name of a
full node, and an address of it whose host has that name. The file is read once for either. -/
def NamesOwnNode (chain path : String) (first second : Except Fault String) : Prop :=
  ∃ backend address, (backend = "bitcoind" ∨ backend = "litecoind") ∧
    valueIn path s!"{chain}.node" first = .ok backend ∧
    valueIn path s!"{backend}.rpchost" second = .ok address ∧
    Chain.hostOf address = backend

/-- The lightning node of a name is there, and its settings say, as they are read from the `n`-th
question on, that it works with the node of this stack. -/
def UsesOwnNode (around : Surroundings) (answer : Answers) (n : Nat) (partner : String) : Prop :=
  ∃ chain path, around.kindOf partner = some (.lightning chain path) ∧
    NamesOwnNode chain path (answer n (.file path)) (answer (n + 1) (.file path))

section
variable {path key : String} {content : Except Fault String}

/-- A setting takes one reading of the file. -/
theorem interview_setting {α : Type} (h : answer n (.file path) = content)
    (f : Except Fault String → Inquiry α) :
    interview answer n (Lightning.setting path key >>= f) =
      ((interview answer (n + 1) (f (valueIn path key content))).1,
        .file path :: (interview answer (n + 1) (f (valueIn path key content))).2) := by
  subst h
  rfl

theorem modeOfHost_eq_native {backend address : String} :
    Chain.modeOfHost backend address = .native ↔ Chain.hostOf address = backend := by
  unfold Chain.modeOfHost
  split <;> simp [*]

/-- Only the settings are read for the mode of a blockchain node. It is native if they say so. -/
theorem interview_modeOf (answer : Answers) (n : Nat) (chain path : String) :
    (∀ q ∈ (interview answer n (Chain.modeOf chain path)).2, q = .file path) ∧
    ((interview answer n (Chain.modeOf chain path)).1 = .ok .native ↔
      NamesOwnNode chain path (answer n (.file path)) (answer (n + 1) (.file path))) := by
  obtain ⟨first, hfirst⟩ : ∃ first, answer n (.file path) = first := ⟨_, rfl⟩
  obtain ⟨second, hsecond⟩ : ∃ second, answer (n + 1) (.file path) = second := ⟨_, rfl⟩
  rw [Chain.modeOf, Lightning.backend, interview_setting hfirst, hfirst, hsecond]
  cases hbackend : valueIn path s!"{chain}.node" first with
  | error fault =>
    refine ⟨by simp, iff_of_false nofun ?_⟩
    rintro ⟨backend, address, -, hnode, -⟩
    rw [hbackend] at hnode
    cases hnode
  | ok backend =>
    -- the settings name one backend, so whatever else they say is about that
    have hunique : ∀ other, valueIn path s!"{chain}.node" first = .ok other → other = backend :=
      fun other h => Except.ok.inj (h.symm.trans hbackend)
    dsimp only
    split
    · next hfull =>
      rw [interview_setting hsecond]
      simp only [Plan.interview_pure]
      have hname : backend = "bitcoind" ∨ backend = "litecoind" := by simpa using hfull
      refine ⟨by simp, fun h => ?_, ?_⟩
      · cases haddress : valueIn path s!"{backend}.rpchost" second with
        | error fault =>
          rw [haddress] at h
          cases h
        | ok address =>
          rw [haddress] at h
          have hown := modeOfHost_eq_native.mp (Except.ok.inj h)
          exact ⟨backend, address, hname, hbackend, haddress, hown⟩
      · rintro ⟨other, address, -, hnode, hhost, hown⟩
        obtain rfl := hunique other hnode
        rw [hhost, Except.map, modeOfHost_eq_native.mpr hown]
    · next hother =>
      have hnone : ¬NamesOwnNode chain path first second := by
        rintro ⟨other, address, hfull, hnode, -⟩
        obtain rfl := hunique other hnode
        rcases hfull with rfl | rfl <;> exact absurd rfl hother
      split
      · exact ⟨by simp, iff_of_false nofun hnone⟩
      · exact ⟨by simp, iff_of_false nofun hnone⟩

/-- The same by the services there are: without a lightning node there is no mode. -/
theorem interview_mode (answer : Answers) (n : Nat) (around : Surroundings) (partner : String) :
    ∃ m qs, interview answer n (Chain.mode around partner) = (m, qs) ∧
      (∀ q ∈ qs, q.isCall = false) ∧ (m = .ok .native ↔ UsesOwnNode around answer n partner) := by
  unfold Chain.mode
  split
  · next chain path hkind =>
    obtain ⟨hfiles, hnative⟩ := interview_modeOf answer n chain path
    refine ⟨_, _, rfl, fun q hq => by rw [hfiles q hq]; rfl, hnative.trans ?_⟩
    constructor
    · exact fun hown => ⟨chain, path, hkind, hown⟩
    · rintro ⟨chain', path', hkind', hown⟩
      obtain ⟨rfl, rfl⟩ := Kind.lightning.inj (Option.some.inj (hkind'.symm.trans hkind))
      exact hown
  · next hkind =>
    refine ⟨_, _, rfl, nofun, iff_of_false nofun ?_⟩
    rintro ⟨chain, path, hlightning, -⟩
    exact hkind chain path hlightning

/-- The status of a blockchain node that does not run calls nobody. It says what the container says
only if the node of this stack is the one in use. -/
theorem interview_chain (around : Surroundings) (name partner : String) {bases : Nat → Base}
    (hbase : ∀ n, answer n .base = bases n) (hidle : ∀ n, (bases n).isRunning = false) :
    ∃ text asked, interview answer n (Chain.status around name partner) = (text, asked) ∧
      (∀ q ∈ asked, q.isCall = false) ∧
      ((∀ n, bases n = .disabled) →
        (text = "Disabled" ↔ UsesOwnNode around answer n partner)) ∧
      text ≠ "Ready" ∧ text ≠ "Waiting for sync" := by
  obtain ⟨m, qs, hmode, hcalls, hnative⟩ := interview_mode answer n around partner
  rw [Chain.status, interview_bind hmode]
  cases m with
  | error fault =>
    obtain ⟨hready, hwaiting, hdisabled⟩ := error_ne fault.message
    exact ⟨_, _, rfl, by simpa using hcalls,
      fun _ => iff_of_false hdisabled (mt hnative.mpr nofun), hready, hwaiting⟩
  | ok mode =>
    cases mode with
    | external =>
      exact ⟨"Ready (connected to external)", _, rfl, by simpa using hcalls,
        fun _ => iff_of_false (by decide) (mt hnative.mpr nofun), by decide, by decide⟩
    | light =>
      exact ⟨"Ready (light mode)", _, rfl, by simpa using hcalls,
        fun _ => iff_of_false (by decide) (mt hnative.mpr nofun), by decide, by decide⟩
    | native =>
      -- the container is asked only now, and may have changed since the settings were read
      obtain ⟨hready, hwaiting⟩ := text_ne_ready (hidle (n + qs.length))
      dsimp only
      rw [Chain.nativeStatus, interview_idle (hbase _) (hidle _)]
      refine ⟨_, _, rfl, ?_, fun h => iff_of_true ?_ (hnative.mp rfl), hready, hwaiting⟩
      · simpa [Question.isCall, or_imp, forall_and] using hcalls
      · rw [h, Base.text]

end

/-! ### Ethereum nodes -/

/-- Which node is used is looked up in the environment of a container. -/
theorem interview_provider (answer : Answers) (n : Nat) (around : Surroundings) (chainId : String) :
    ∃ found qs, interview answer n (Ethereum.provider around chainId) = (found, qs) ∧
      qs.filter Question.isCall = [] := by
  unfold Ethereum.provider
  split
  · exact ⟨_, _, rfl, rfl⟩
  · exact ⟨_, _, rfl, rfl⟩

theorem interview_probe {α : Type} {url : String} {result : Except Upstream.Fault Unit}
    (h : answer n (.probe url) = result) (f : Except Upstream.Fault Unit → Inquiry α) :
    interview answer n (Inquiry.probe url >>= f) =
      ((interview answer (n + 1) (f result)).1,
        .probe url :: (interview answer (n + 1) (f result)).2) :=
  Plan.interview_question h f

/-- A node elsewhere is looked at once, and is said to be elsewhere. -/
theorem interview_probed (answer : Answers) (n : Nat) (provider : Ethereum.Provider)
    (url : String) :
    ∃ text, interview answer n (Ethereum.probedStatus provider url) = (text, [.probe url]) ∧
      text ≠ "Ready" ∧ text ≠ "Waiting for sync" := by
  have htexts : provider.texts.1 ≠ "Ready" ∧ provider.texts.1 ≠ "Waiting for sync" ∧
      provider.texts.2 ≠ "Ready" ∧ provider.texts.2 ≠ "Waiting for sync" := by
    cases provider <;> decide
  obtain ⟨hready, hwaiting, hunready, hunwaiting⟩ := htexts
  obtain ⟨result, hresult⟩ : ∃ result, answer n (.probe url) = result := ⟨_, rfl⟩
  rw [Ethereum.probedStatus, interview_probe hresult]
  cases result with
  | ok => exact ⟨_, rfl, hready, hwaiting⟩
  | error fault => exact ⟨_, rfl, hunready, hunwaiting⟩

/-- The status of an Ethereum node that does not run takes the name of the node that is used, and
one look at that node if it is elsewhere. -/
theorem interview_ethereum (around : Surroundings) (name chainId : String) (light : List String)
    (hbase : answer n .base = base) (hidle : base.isRunning = false) :
    ∃ text asked, interview answer n (Ethereum.status around name chainId light) = (text, asked) ∧
      (base = .disabled → text = "Disabled" ∧ asked = [.base]) ∧
      text ≠ "Ready" ∧ text ≠ "Waiting for sync" ∧
      (asked.filter Question.isCall = [] ∨
        ∃ url, asked.filter Question.isCall = [.probe url] ∧
          Ethereum.Provider.ofUrl light url ≠ .native) := by
  obtain ⟨hready, hwaiting⟩ := text_ne_ready hidle
  rw [Ethereum.status, interview_base hbase]
  split
  · next hdisabled =>
    exact ⟨_, _, rfl, fun _ => ⟨by rw [hdisabled]; rfl, rfl⟩, hready, hwaiting, .inl rfl⟩
  · next hwanted =>
    obtain ⟨found, qs, hfound, hcalls⟩ := interview_provider answer (n + 1) around chainId
    rw [interview_bind hfound]
    match found with
    | .error fault =>
      obtain ⟨hr, hw, -⟩ := error_ne fault.message
      exact ⟨_, _, rfl, fun he => absurd he hwanted, hr, hw,
        .inl (by simp [hcalls, Question.isCall])⟩
    | .ok url =>
      dsimp only
      split
      · rw [Ethereum.nativeStatus, hidle]
        exact ⟨_, _, rfl, fun he => absurd he hwanted, hready, hwaiting,
          .inl (by simp [hcalls, Question.isCall])⟩
      · next provider helsewhere =>
        obtain ⟨text, htext, hr, hw⟩ := interview_probed answer (n + 1 + qs.length)
          (Ethereum.Provider.ofUrl light url) url
        rw [htext]
        exact ⟨_, _, rfl, fun he => absurd he hwanted, hr, hw,
          .inr ⟨url, by simp [hcalls, Question.isCall], helsewhere⟩⟩

/-! ### All services -/

/-- The kinds of service that wait for the chains while the setup is under way. -/
def Kind.waits : Kind → Bool
  | .plain .arby | .trading _ | .swap => true
  | _ => false

theorem base_idle {h : Handle} {record : Option Record}
    (hidle : ∀ r, record = some r → r.isRunning = false) : (h.base record).isRunning = false := by
  cases record with
  | none =>
    simp only [Handle.base]
    split <;> rfl
  | some r =>
    rw [Handle.base, hidle r rfl]
    rfl

/-- The status of any other service that does not run is a matter of its container alone. -/
theorem interview_other (around : Surroundings) {s : Service} (hproxy : s.kind ≠ .plain .proxy)
    (hchain : ∀ partner, s.kind ≠ .chain partner)
    (hethereum : ∀ chainId light, s.kind ≠ .ethereum chainId light)
    (hbase : answer n .base = base) (hidle : base.isRunning = false) :
    interview answer n (s.status around) =
      (if s.kind.waits then idleText around.isSetup base else base.text, [.base]) := by
  unfold Service.status
  match hkind : s.kind with
  | .chain partner => exact absurd hkind (hchain partner)
  | .ethereum chainId light => exact absurd hkind (hethereum chainId light)
  | .plain .proxy => exact absurd hkind hproxy
  | .lightning chain path => exact interview_idle hbase hidle _ _
  | .channels => exact interview_idle hbase hidle _ _
  | .trading keyPath => exact interview_idle hbase hidle _ _
  | .swap => exact interview_idle hbase hidle _ _
  | .understudy act fails => exact interview_idle hbase hidle _ _
  | .plain .arby =>
    show interview answer n (Inquiry.base >>= _) = _
    rw [interview_base hbase, hidle]
    rfl
  | .plain .webui =>
    show interview answer n (Inquiry.base >>= _) = _
    rw [interview_base hbase, hidle]
    rfl

theorem idleText_eq_waiting (hidle : base.isRunning = false) {isSetup : Bool} :
    idleText isSetup base = "Waiting for sync" ↔ isSetup ∧ base ≠ .disabled := by
  unfold idleText
  split
  · next h => simpa [waitingText] using h
  · next h =>
    refine iff_of_false (text_ne_ready hidle).2 ?_
    simpa using h

theorem idleText_ne_ready (hidle : base.isRunning = false) {isSetup : Bool} :
    idleText isSetup base ≠ "Ready" := by
  unfold idleText
  split
  · decide
  · exact (text_ne_ready hidle).1

/-- Blockchain nodes have a status of their own. -/
theorem status_chain {s : Service} {partner : String} (h : s.kind = .chain partner) :
    s.status around = Chain.status around s.name partner := by
  rw [Service.status, h]

/-- Ethereum nodes have a status of their own. -/
theorem status_ethereum {s : Service} {chainId : String} {light : List String}
    (h : s.kind = .ethereum chainId light) :
    s.status around = Ethereum.status around s.name chainId light := by
  rw [Service.status, h]

/-- A service that is not wanted and has no container calls nobody for its status, and its status is
`Disabled`, whatever is going on around it. Blockchain nodes are an exception: they read the
settings of their lightning nodes first, and are `Disabled` exactly if these say that the node of
this stack is the one in use. -/
theorem status_of_unwanted (around : Surroundings) (answer : Answers) {s : Service}
    (hproxy : s.kind ≠ .plain .proxy)
    (hdisabled : s.handle.disabled = true) (hmode : s.handle.mode = "" ∨ s.handle.mode = "native")
    (habsent : ∀ n, answer n .base = s.handle.base none) :
    ∃ text asked, interview answer 0 (s.status around) = (text, asked) ∧
      (∀ q ∈ asked, q.isCall = false) ∧
      ((∀ partner, s.kind ≠ .chain partner) → text = "Disabled") ∧
      (∀ partner, s.kind = .chain partner →
        (text = "Disabled" ↔ UsesOwnNode around answer 0 partner)) := by
  have hunwanted : s.handle.base none = .disabled := by
    have : s.handle.unwanted = true := by
      rcases hmode with h | h <;> simp [Handle.unwanted, hdisabled, h]
    rw [Handle.base, if_pos this]
  rw [hunwanted] at habsent
  match hkind : s.kind with
  | .chain partner =>
    obtain ⟨text, asked, h, hcalls, hown, -⟩ := interview_chain around s.name partner habsent
      fun _ => rfl
    refine ⟨text, asked, by rw [status_chain hkind, h], hcalls, fun hno => absurd rfl (hno partner),
      ?_⟩
    rintro _ ⟨⟩
    exact hown fun _ => rfl
  | .ethereum chainId light =>
    obtain ⟨text, asked, h, hdisabled, -⟩ := interview_ethereum around s.name chainId light
      (habsent 0) rfl
    obtain ⟨rfl, rfl⟩ := hdisabled rfl
    refine ⟨_, _, by rw [status_ethereum hkind, h], ?_, fun _ => rfl, nofun⟩
    simp [Question.isCall]
  | .plain _ | .lightning _ _ | .channels | .trading _ | .swap | .understudy _ _ =>
    have hother := interview_other around hproxy (by simp [hkind]) (by simp [hkind]) (habsent 0) rfl
    refine ⟨_, _, hother, ?_, fun _ => ?_, nofun⟩
    · simp [Question.isCall]
    · simp [idleText, Base.text]

/-- A stack in which nothing changes and nobody can be called: what the container says and the text
of each file. -/
def silent (base : Base) (content : String → Except Fault String) : (q : Question) → q.Answer
  | .base => base
  | .environment _ _ => .ok none
  | .file path => content path
  | .present _ => false
  | .call _ _ | .probe _ | .lightning | .trading _ => .error .noClient
  | .health => false
  | .commands _ _ => none
  | .act _ => ""

/-- A blockchain node that nobody wants here, whose lightning node is `lndbtc`. -/
def unwantedNode : Service :=
  ⟨"bitcoind", .chain "lndbtc", ⟨"simnet_bitcoind_1", true, ""⟩⟩

/-- Only the lightning node `lndbtc` is around. -/
def besideLightning : Surroundings :=
  ⟨fun name => if name = "lndbtc" then some (.lightning "bitcoin" "lnd.conf") else none, false⟩

/-- The settings of a lightning node that works with the node of this stack. -/
def ownNodeConf : String :=
  "[bitcoin]\nbitcoin.node=bitcoind\n[bitcoind]\nbitcoind.rpchost=bitcoind:18443\n"

/-- It is `Disabled` as long as its lightning node works with the node of this stack. -/
theorem status_of_unwanted_node :
    unwantedNode.kind ≠ .plain .proxy ∧ unwantedNode.handle.disabled = true ∧
      (unwantedNode.handle.mode = "" ∨ unwantedNode.handle.mode = "native") ∧
      (((unwantedNode.status besideLightning).run
        (silent .disabled fun _ => .ok ownNodeConf)).1 = "Disabled") := by
  refine ⟨by decide, rfl, .inl rfl, ?_⟩
  obtain ⟨text, asked, h, -, -, hown⟩ := status_of_unwanted besideLightning
    (fun _ => silent .disabled fun _ => .ok ownNodeConf) (s := unwantedNode) (by decide) rfl
    (.inl rfl) fun _ => rfl
  have huses : UsesOwnNode besideLightning
      (fun _ => silent .disabled fun _ => .ok ownNodeConf) 0 "lndbtc" :=
    ⟨"bitcoin", "lnd.conf", rfl, "bitcoind", "bitcoind:18443", .inl rfl, rfl, rfl, by decide⟩
  rw [← Plan.interview_const _ 0, h]
  exact (hown "lndbtc" rfl).mpr huses

/-- It is not `Disabled` without a lightning node. -/
theorem unwanted_without_partner :
    unwantedNode.handle.base none = .disabled ∧
      (unwantedNode.status ⟨fun _ => none, false⟩).run
        (silent .disabled fun _ => .ok ownNodeConf) =
        ("Error: Sibling service unavailable: lndbtc", []) := by
  constructor <;> rfl

/-- A service whose container does not run, from the first question to the last:

* is never plainly `Ready`;
* is left alone, and so are the services around it. Only an Ethereum node may look at another node,
  once, and only at one that is elsewhere;
* is `Waiting for sync` exactly if it is of a kind that waits, the setup is under way and it is not
  disabled. -/
theorem status_of_idle (around : Surroundings) (answer : Answers) {s : Service}
    (hproxy : s.kind ≠ .plain .proxy)
    {records : Nat → Option Record} (hbase : ∀ n, answer n .base = s.handle.base (records n))
    (hidle : ∀ n r, records n = some r → r.isRunning = false) :
    ∃ text asked, interview answer 0 (s.status around) = (text, asked) ∧ text ≠ "Ready" ∧
      (asked.filter Question.isCall = [] ∨
        ∃ chainId light url, s.kind = .ethereum chainId light ∧
          asked.filter Question.isCall = [.probe url] ∧
          Ethereum.Provider.ofUrl light url ≠ .native) ∧
      (text = "Waiting for sync" ↔
        s.kind.waits ∧ around.isSetup ∧ s.handle.base (records 0) ≠ .disabled) := by
  have hbaseIdle : ∀ n, (s.handle.base (records n)).isRunning = false :=
    fun n => base_idle (hidle n)
  match hkind : s.kind with
  | .chain partner =>
    obtain ⟨text, asked, h, hcalls, -, hready, hwaiting⟩ := interview_chain around s.name
      partner hbase hbaseIdle
    refine ⟨text, asked, by rw [status_chain hkind, h], hready, .inl ?_,
      iff_of_false hwaiting (by simp [Kind.waits])⟩
    exact List.filter_eq_nil_iff.mpr fun q hq => by simp [hcalls q hq]
  | .ethereum chainId light =>
    obtain ⟨text, asked, h, -, hready, hwaiting, hcalls⟩ := interview_ethereum around
      s.name chainId light (hbase 0) (hbaseIdle 0)
    refine ⟨text, asked, by rw [status_ethereum hkind, h], hready, ?_,
      iff_of_false hwaiting (by simp [Kind.waits])⟩
    rcases hcalls with hnone | ⟨url, hprobe, helsewhere⟩
    · exact .inl hnone
    · exact .inr ⟨chainId, light, url, rfl, hprobe, helsewhere⟩
  | .plain _ | .lightning _ _ | .channels | .trading _ | .swap | .understudy _ _ =>
    have hother := interview_other around hproxy (by simp [hkind]) (by simp [hkind]) (hbase 0)
      (hbaseIdle 0)
    rw [hkind] at hother
    refine ⟨_, _, hother, ?_, .inl rfl, ?_⟩
    · split
      · exact idleText_ne_ready (hbaseIdle 0)
      · exact (text_ne_ready (hbaseIdle 0)).1
    · split
      · next hwaits => simpa [hwaits] using idleText_eq_waiting (hbaseIdle 0)
      · next hwaits => exact iff_of_false (text_ne_ready (hbaseIdle 0)).2 fun h => hwaits h.1

/-- A trading daemon whose container has ended waits while the setup is under way, and its wallet is
not looked for. -/
theorem status_of_idle_trading :
    let daemon : Service := ⟨"opendexd", .trading "nodekey.dat", ⟨"simnet_opendexd_1", false, ""⟩⟩
    let ended : Record := ⟨"id1", "simnet_opendexd_1", "exited", none, []⟩
    daemon.kind ≠ .plain .proxy ∧ ended.isRunning = false ∧
      ∃ asked, (daemon.status ⟨fun _ => none, true⟩).run
          (silent (daemon.handle.base (some ended)) fun _ => .ok "") = ("Waiting for sync", asked) ∧
        asked.filter Question.isCall = [] := by
  intro daemon ended
  refine ⟨by decide, rfl, ?_⟩
  have hbase : ∀ _ : Nat, silent (daemon.handle.base (some ended)) (fun _ => .ok "") .base =
      daemon.handle.base (some ended) := fun _ => rfl
  have hended : ∀ (_ : Nat) r, some ended = some r → r.isRunning = false := by
    rintro _ _ ⟨⟩
    rfl
  obtain ⟨text, asked, h, -, hcalls, hwaiting⟩ := status_of_idle ⟨fun _ => none, true⟩
    (fun _ => silent (daemon.handle.base (some ended)) fun _ => .ok "") (s := daemon) (by decide)
    hbase hended
  have htext : text = "Waiting for sync" := hwaiting.mpr ⟨rfl, rfl, by decide⟩
  rw [← Plan.interview_const _ 0, h, htext]
  refine ⟨asked, rfl, ?_⟩
  rcases hcalls with hnone | ⟨chainId, light, url, hethereum, -⟩
  · exact hnone
  · cases hethereum

end NodeStack.Service
