import NodeStack.Stack.Round

/-!
# `NodeStack.Proofs.Stack.Round`: a round has the status of every service, in time

The computations of a round go on side by side, and are awaited one after the other. A computation
that hangs holds the others up only as far as the deadline: all of them are given up then, so the
first look at that time ends the round, and what the others came to meanwhile is not lost.

* `Conduct`, `Conduct.reportBy`: how a computation goes on the clock, and what has to be reported.
* `Behaves`, `Happens`: what is asked of the computations, and of all else that goes on.
* `Faithful`: what holds of a round at any time. `faithful_await`, `faithful_look`.
* `Round.follow`: a round on a clock, to its end. `follow_faithful` by induction on what goes on
  meanwhile.
* `awaited_look_of_grace`: a round ends with the grace even if nothing is asked of the computations.
* `follow_start`: what a round comes to, if it begins before the grace is over;
  `result?_start_of_grace`: and if it does not.
-/

set_option autoImplicit false

namespace NodeStack.Stack

/-! ### Computations on a clock -/

/-- How the computation of a status goes. -/
inductive Conduct where
  /-- It is over at the time `due`, with the status. -/
  | answers (due : Nat) (status : String)
  /-- It breaks down at the time `due`, perhaps with a text. -/
  | crashes (due : Nat) (message : Option String)
  /-- It is never over. -/
  | endless

namespace Conduct

/-- How a computation has ended by the time `now`, if it has. -/
def endingBy (now : Nat) : Conduct → Option Ending
  | answers due status => if due ≤ now then some (.text status) else none
  | crashes due message => if due ≤ now then some (.crashed message) else none
  | endless => none

/-- What is to be reported of a computation that has time until `limit`. -/
def reportBy (limit : Nat) : Conduct → String
  | answers due status => if due ≤ limit then status else "Error: timeout"
  | crashes due message =>
    if due ≤ limit then "Error: " ++ message.getD "panic" else "Error: timeout"
  | endless => "Error: timeout"

theorem report_of_endingBy {b : Conduct} {now limit : Nat} {ending : Ending} (hle : now ≤ limit)
    (h : b.endingBy now = some ending) : ending.report = b.reportBy limit := by
  cases b with
  | answers due status =>
    obtain ⟨hdue, he⟩ := Option.ite_none_right_eq_some.mp h
    cases he
    exact (if_pos (Nat.le_trans hdue hle)).symm
  | crashes due message =>
    obtain ⟨hdue, he⟩ := Option.ite_none_right_eq_some.mp h
    cases he
    exact (if_pos (Nat.le_trans hdue hle)).symm
  | endless => cases h

theorem late_of_endingBy {b : Conduct} {limit : Nat} (h : b.endingBy limit = none) :
    Ending.late.report = b.reportBy limit := by
  cases b with
  | answers due status | crashes due message =>
    have hdue : ¬due ≤ limit := by simpa [endingBy] using h
    exact (if_neg hdue).symm
  | endless => rfl

end Conduct

/-- What is asked of computations. `plays` says that one goes as its conduct says, and whether it
has begun: none has before the first look at it. -/
structure Behaves {α σ : Type} (poll : α → σ → Reading α × σ) (time : σ → Nat)
    (plays : Bool → Conduct → α → σ → Prop) : Prop where
  /-- A look takes no time. -/
  instant : ∀ {begun b t s}, plays begun b t s → time (poll t s).2 = time s
  /-- A look disturbs no computation. -/
  apart : ∀ {begun b t s began c u}, plays begun b t s → plays began c u s →
    plays began c u (poll t s).2
  /-- A look shows the end. -/
  ended : ∀ {begun b t s ending}, plays begun b t s → b.endingBy (time s) = some ending →
    (poll t s).1 = .inr ending
  /-- Until then the computation goes on. -/
  going : ∀ {begun b t s}, plays begun b t s → b.endingBy (time s) = none →
    ∃ u, (poll t s).1 = .inl u ∧ plays true b u (poll t s).2

/-- What is asked of all else that goes on between two looks. -/
structure Happens {α σ : Type} (time : σ → Nat) (plays : Bool → Conduct → α → σ → Prop)
    (deadline : Nat) (f : σ → σ) : Prop where
  /-- The clock stops at the deadline: something is to be done then. -/
  stops : ∀ s, time s < deadline → time (f s) ≤ deadline
  /-- No computation that has begun is disturbed. -/
  undisturbed : ∀ {b t s}, plays true b t s → plays true b t (f s)

namespace Round

variable {α σ : Type}

/-- A round on a clock: everything is looked at after each of the things that go on meanwhile. It
comes to its end, with the time and the statuses, or so far. -/
def follow (poll : α → σ → Reading α × σ) (time : σ → Nat) :
    List (σ → σ) → Round α → σ → (Nat × Dict String) ⊕ (Round α × σ)
  | [], r, s =>
    match r.result? with
    | some statuses => .inl (time s, statuses)
    | none => .inr (r, s)
  | f :: rest, r, s =>
    match r.result? with
    | some statuses => .inl (time s, statuses)
    | none =>
      let (r, s) := r.look poll (time (f s)) (f s)
      follow poll time rest r s

/-! ### Awaiting -/

section
variable {isLate : Bool} {readings : List (String × Reading α)} {reported : Dict String}

theorem awaitAll_suffix : (awaitAll isLate readings reported).1 <:+ readings := by
  fun_induction awaitAll isLate readings reported with
  | case1 => exact List.suffix_rfl
  | case2 name ending rest reported ih => exact ih.trans (List.suffix_cons _ _)
  | case3 name task rest reported _ ih => exact ih.trans (List.suffix_cons _ _)
  | case4 => exact List.suffix_rfl

/-- A computation that was awaited is among those that are reported of. -/
theorem names_put {name : String} {rest : List String} (text : String)
    (h : (reported.map (·.1) ++ name :: rest).Nodup) :
    ((reported.put name text).map (·.1) ++ rest).Perm (reported.map (·.1) ++ name :: rest) := by
  have hnew : name ∉ reported.map (·.1) := fun hm =>
    (List.nodup_append.mp h).2.2 name hm name List.mem_cons_self rfl
  exact ((Dict.names_put_perm text hnew).append_right rest).trans List.perm_middle.symm

/-- No name is lost. -/
theorem names_awaitAll (h : (reported.map (·.1) ++ readings.map (·.1)).Nodup) :
    ((awaitAll isLate readings reported).2.map (·.1) ++
      (awaitAll isLate readings reported).1.map (·.1)).Perm
      (reported.map (·.1) ++ readings.map (·.1)) := by
  fun_induction awaitAll isLate readings reported with
  | case1 => exact .refl _
  | case2 name ending rest reported ih =>
    have hput := names_put ending.report h
    exact (ih (hput.nodup_iff.mpr h)).trans hput
  | case3 name task rest reported _ ih =>
    have hput := names_put Ending.late.report h
    exact (ih (hput.nodup_iff.mpr h)).trans hput
  | case4 => exact .refl _

/-- What is reported is as it should be, if what is awaited is. -/
theorem reported_awaitAll {final : String → String}
    (hreported : ∀ name text, Dict.get? name reported = some text → text = final name)
    (hended : ∀ name ending, (name, .inr ending) ∈ readings → ending.report = final name)
    (hlate : isLate = true → ∀ name task, (name, .inl task) ∈ readings →
      Ending.late.report = final name) :
    ∀ name text, Dict.get? name (awaitAll isLate readings reported).2 = some text →
      text = final name := by
  have hput : ∀ {reported : Dict String} {name : String} {new : String}, new = final name →
      (∀ name text, Dict.get? name reported = some text → text = final name) →
      ∀ other text, Dict.get? other (reported.put name new) = some text → text = final other := by
    intro reported name new hnew hold other text h
    by_cases hn : other = name
    · subst hn
      rw [Dict.get?_put_self] at h
      cases h
      exact hnew
    · rw [Dict.get?_put_other hn] at h
      exact hold other text h
  fun_induction awaitAll isLate readings reported with
  | case1 => exact hreported
  | case2 name ending rest reported ih =>
    refine ih (hput (hended name ending List.mem_cons_self) hreported) ?_ ?_
    · exact fun n e hm => hended n e (List.mem_cons_of_mem _ hm)
    · exact fun ho n t hm => hlate ho n t (List.mem_cons_of_mem _ hm)
  | case3 name task rest reported ho ih =>
    refine ih (hput (hlate ho name task List.mem_cons_self) hreported) ?_ ?_
    · exact fun n e hm => hended n e (List.mem_cons_of_mem _ hm)
    · exact fun ho n t hm => hlate ho n t (List.mem_cons_of_mem _ hm)
  | case4 => exact hreported

/-- Nothing is awaited any more once all computations have ended, or the time is over. -/
theorem awaitAll_eq_nil (h : isLate = true ∨ ∀ entry ∈ readings, entry.2.isRight) :
    (awaitAll isLate readings reported).1 = [] := by
  fun_induction awaitAll isLate readings reported with
  | case1 => rfl
  | case2 name ending rest reported ih =>
    exact ih (h.imp_right fun he entry hm => he entry (List.mem_cons_of_mem _ hm))
  | case3 name task rest reported ho ih => exact ih (Or.inl ho)
  | case4 name task rest reported ho =>
    rcases h with h | h
    · exact absurd h ho
    · cases h _ List.mem_cons_self

/-- With the grace a round ends, whatever its computations do. -/
theorem awaited_look_of_grace {poll : α → σ → Reading α × σ} {now : Nat} {r : Round α} (s : σ)
    (h : r.deadline + grace ≤ now) : (r.look poll now s).1.awaited = [] :=
  awaitAll_eq_nil (Or.inl (decide_eq_true h))

end

/-! ### Looking -/

/-- A computation that goes on goes as it should; of one that has ended, the right thing will be
reported. -/
def Fits (plays : Bool → Conduct → α → σ → Prop) (b : String → Conduct) (limit : Nat) (begun : Bool)
    (s : σ) : String × Reading α → Prop
  | (name, .inl task) => plays begun (b name) task s
  | (name, .inr ending) => ending.report = (b name).reportBy limit

section
variable {poll : α → σ → Reading α × σ} {time : σ → Nat}
  {plays : Bool → Conduct → α → σ → Prop} {b : String → Conduct} {deadline limit : Nat}
  {begun : Bool} {s : σ}

theorem Fits.mono {s' : σ} {entry : String × Reading α} (h : Fits plays b limit begun s entry)
    (hs : ∀ {c u}, plays begun c u s → plays begun c u s') : Fits plays b limit begun s' entry := by
  obtain ⟨name, task | ending⟩ := entry
  · exact hs h
  · exact h

theorem look_of_ended {now : Nat} {task : α} {ending : Ending} (h : (poll task s).1 = .inr ending) :
    Reading.look poll deadline now (.inl task) s = (.inr ending, (poll task s).2) := by
  simp only [Reading.look]
  generalize poll task s = shown at h ⊢
  obtain ⟨reading, s'⟩ := shown
  cases h
  rfl

theorem look_of_going {now : Nat} {task u : α} (h : (poll task s).1 = .inl u) :
    Reading.look poll deadline now (.inl task) s =
      (if deadline ≤ now then .inr .late else .inl u, (poll task s).2) := by
  simp only [Reading.look]
  generalize poll task s = shown at h ⊢
  obtain ⟨reading, s'⟩ := shown
  cases h
  rfl

/-- A look at a computation that fits. When the deadline has come, that is the last moment that
counts. -/
theorem fits_look (hp : Behaves poll time plays) (hle : time s ≤ limit)
    (hlast : deadline ≤ time s → limit ≤ time s) {name : String} {reading : Reading α}
    (h : Fits plays b limit begun s (name, reading)) :
    let looked := reading.look poll deadline (time s) s
    Fits plays b limit true looked.2 (name, looked.1) ∧
      (deadline ≤ time s → looked.1.isRight) ∧ time looked.2 = time s ∧
      ∀ {began c u}, plays began c u s → plays began c u looked.2 := by
  cases reading with
  | inr ending => exact ⟨h, fun _ => rfl, rfl, id⟩
  | inl task =>
    have hplays : plays begun (b name) task s := h
    have hsame : time (poll task s).2 = time s := hp.instant hplays
    cases he : (b name).endingBy (time s) with
    | some ending =>
      rw [look_of_ended (hp.ended hplays he)]
      exact ⟨Conduct.report_of_endingBy hle he, fun _ => rfl, hsame, hp.apart hplays⟩
    | none =>
      obtain ⟨u, hu, hgoing⟩ := hp.going hplays he
      rw [look_of_going hu]
      by_cases hd : deadline ≤ time s
      · rw [if_pos hd]
        -- the look comes at the very end, so the computation is not over by then
        have hlimit : time s = limit := Nat.le_antisymm hle (hlast hd)
        rw [hlimit] at he
        exact ⟨Conduct.late_of_endingBy he, fun _ => rfl, hsame, hp.apart hplays⟩
      · rw [if_neg hd]
        exact ⟨hgoing, fun h => absurd h hd, hsame, hp.apart hplays⟩

theorem names_lookAll (now : Nat) (readings : List (String × Reading α)) (s : σ) :
    (lookAll poll deadline now readings s).1.map (·.1) = readings.map (·.1) := by
  induction readings generalizing s with
  | nil => rfl
  | cons entry rest ih => exact congrArg (entry.1 :: ·) (ih _)

/-- A look at computations that fit, one after the other. -/
theorem fits_lookAll (hp : Behaves poll time plays) (hle : time s ≤ limit)
    (hlast : deadline ≤ time s → limit ≤ time s) {readings : List (String × Reading α)}
    (h : ∀ entry ∈ readings, Fits plays b limit begun s entry) :
    let looked := lookAll poll deadline (time s) readings s
    (∀ entry ∈ looked.1, Fits plays b limit true looked.2 entry) ∧
      (deadline ≤ time s → ∀ entry ∈ looked.1, entry.2.isRight) ∧ time looked.2 = time s ∧
      ∀ {began c u}, plays began c u s → plays began c u looked.2 := by
  induction readings generalizing s with
  | nil => exact ⟨nofun, nofun, rfl, id⟩
  | cons entry rest ih =>
    obtain ⟨name, reading⟩ := entry
    obtain ⟨hfits, hright, hsame, hapart⟩ := fits_look hp hle hlast (h _ List.mem_cons_self)
    have hrest : ∀ entry ∈ rest, Fits plays b limit begun
        (reading.look poll deadline (time s) s).2 entry := fun entry hm =>
      (h entry (List.mem_cons_of_mem _ hm)).mono hapart
    -- no time has passed, so the rest is looked at in the same circumstances
    rw [← hsame] at hle hlast
    obtain ⟨hfits', hright', hsame', hapart'⟩ := ih hle hlast hrest
    rw [hsame] at hfits' hright' hsame' hapart'
    refine ⟨?_, ?_, hsame', fun hc => hapart' (hapart hc)⟩
    · exact List.forall_mem_cons.mpr ⟨hfits.mono hapart', hfits'⟩
    · exact fun hd => List.forall_mem_cons.mpr ⟨hright hd, hright' hd⟩

/-! ### Rounds -/

/-- What holds of a round at any time: no name is lost, the computations fit, and what is reported
is right. -/
structure Faithful (plays : Bool → Conduct → α → σ → Prop) (b : String → Conduct)
    (names : List String) (limit : Nat) (begun : Bool) (r : Round α) (s : σ) : Prop where
  names : (r.reported.map (·.1) ++ r.awaited.map (·.1)).Perm names
  fits : ∀ entry ∈ r.awaited, Fits plays b limit begun s entry
  reports : ∀ name text, Dict.get? name r.reported = some text → text = (b name).reportBy limit

variable {names : List String} {r : Round α}

theorem faithful_await (hnames : names.Nodup) {now : Nat}
    (hlate : r.deadline + grace ≤ now → ∀ name task, (name, .inl task) ∈ r.awaited →
      Ending.late.report = (b name).reportBy limit)
    (h : Faithful plays b names limit begun r s) :
    Faithful plays b names limit begun (r.await now) s := by
  have hperm : ((r.await now).reported.map (·.1) ++ (r.await now).awaited.map (·.1)).Perm
      (r.reported.map (·.1) ++ r.awaited.map (·.1)) :=
    names_awaitAll (h.names.nodup_iff.mpr hnames)
  exact ⟨hperm.trans h.names, fun entry hm => h.fits entry (awaitAll_suffix.mem hm),
    reported_awaitAll h.reports (fun name ending hm => h.fits _ hm)
      fun hover => hlate (of_decide_eq_true hover)⟩

theorem faithful_look (hp : Behaves poll time plays) (hnames : names.Nodup) (hle : time s ≤ limit)
    (hlast : r.deadline ≤ time s → limit ≤ time s) (hover : time s < r.deadline + grace)
    (h : Faithful plays b names limit begun r s) :
    let looked := r.look poll (time s) s
    Faithful plays b names limit true looked.1 looked.2 ∧
      (r.deadline ≤ time s → looked.1.awaited = []) ∧ time looked.2 = time s := by
  obtain ⟨hfits, hright, hsame, -⟩ := fits_lookAll hp hle hlast h.fits
  refine ⟨faithful_await hnames (fun h => absurd h (Nat.not_le_of_lt hover))
    ⟨?_, hfits, h.reports⟩, fun hd => awaitAll_eq_nil (Or.inr (hright hd)), hsame⟩
  rw [names_lookAll]
  exact h.names

theorem faithful_tasks {tasks : List (String × α)}
    (h : ∀ name task, (name, task) ∈ tasks → plays begun (b name) task s) :
    Faithful plays b (tasks.map (·.1)) limit begun
      ⟨deadline, tasks.map fun (name, task) => (name, .inl task), []⟩ s := by
  refine ⟨by simp [Function.comp_def], fun entry hentry => ?_, nofun⟩
  obtain ⟨⟨name, task⟩, hmem, rfl⟩ := List.mem_map.mp hentry
  exact h name task hmem

/-- Once nothing is awaited any more, every name has its report. -/
theorem Faithful.result (h : Faithful plays b names limit begun r s) {d : Dict String}
    (hd : r.result? = some d) : (d.map (·.1)).Perm names ∧
      ∀ name ∈ names, Dict.get? name d = some ((b name).reportBy limit) := by
  unfold result? at hd
  obtain ⟨hnil, he⟩ := Option.ite_none_right_eq_some.mp hd
  cases he
  have hperm := h.names
  rw [List.isEmpty_iff.mp hnil, List.map_nil, List.append_nil] at hperm
  refine ⟨hperm, fun name hm => ?_⟩
  obtain ⟨text, ht⟩ := Dict.exists_get?_of_mem (hperm.mem_iff.mpr hm)
  rw [ht, h.reports name text ht]

theorem follow_of_result {meanwhile : List (σ → σ)} {d : Dict String} (h : r.result? = some d) :
    r.follow poll time meanwhile s = .inl (time s, d) := by
  cases meanwhile <;> simp [follow, h]

theorem result?_of_awaited (h : r.awaited = []) : r.result? = some r.reported :=
  if_pos (List.isEmpty_iff.mpr h)

/-- A round has come to an end within a limit, with the report that each name should have, or it is
under way before the deadline. -/
def Concludes (names : List String) (report : String → String) (time : σ → Nat)
    (deadline limit : Nat) : (Nat × Dict String) ⊕ (Round α × σ) → Prop
  | .inl (now, d) => now ≤ limit ∧ (d.map (·.1)).Perm names ∧
      ∀ name ∈ names, Dict.get? name d = some (report name)
  | .inr (_, s) => time s < deadline

/-- A round that is under way comes to the right reports by the deadline. -/
theorem follow_faithful (hp : Behaves poll time plays) (hnames : names.Nodup)
    {meanwhile : List (σ → σ)} (hm : ∀ f ∈ meanwhile, Happens time plays r.deadline f)
    (h : Faithful plays b names r.deadline true r s)
    (hbefore : r.result? = none → time s < r.deadline) (hle : time s ≤ r.deadline) :
    Concludes names (fun name => (b name).reportBy r.deadline) time r.deadline r.deadline
      (r.follow poll time meanwhile s) := by
  induction meanwhile generalizing r s with
  | nil =>
    cases hd : r.result? with
    | some d =>
      simp only [follow, hd]
      exact ⟨hle, h.result hd⟩
    | none =>
      simp only [follow, hd]
      exact hbefore hd
  | cons f rest ih =>
    cases hd : r.result? with
    | some d =>
      simp only [follow, hd]
      exact ⟨hle, h.result hd⟩
    | none =>
      -- the clock does not pass the deadline, and the look at that time ends every computation
      have hf := hm f List.mem_cons_self
      have hlef : time (f s) ≤ r.deadline := hf.stops s (hbefore hd)
      have hover : time (f s) < r.deadline + grace := Nat.lt_of_le_of_lt hlef (by simp [grace])
      have hfits : Faithful plays b names r.deadline true r (f s) :=
        ⟨h.names, fun entry hentry => (h.fits entry hentry).mono hf.undisturbed, h.reports⟩
      obtain ⟨hlooked, hlast, hsame⟩ := faithful_look hp hnames hlef id hover hfits
      have hbefore' : (r.look poll (time (f s)) (f s)).1.result? = none →
          time (r.look poll (time (f s)) (f s)).2 < r.deadline := by
        intro hnone
        rw [hsame]
        refine Nat.lt_of_not_le fun hd => ?_
        rw [result?_of_awaited (hlast hd)] at hnone
        cases hnone
      have hend := ih (r := (r.look poll (time (f s)) (f s)).1)
        (s := (r.look poll (time (f s)) (f s)).2)
        (fun f hmem => hm f (List.mem_cons_of_mem _ hmem)) hlooked hbefore'
        (Nat.le_trans (Nat.le_of_eq hsame) hlef)
      simp only [follow, hd]
      exact hend

/-- A round that begins when the grace is over gives everything up at once. -/
theorem result?_start_of_grace {tasks : List (String × α)} (hnames : (tasks.map (·.1)).Nodup)
    {now : Nat} (h : deadline + grace ≤ now) :
    ∃ d, (start deadline now tasks).result? = some d ∧ (d.map (·.1)).Perm (tasks.map (·.1)) ∧
      ∀ name ∈ tasks.map (·.1), Dict.get? name d = some "Error: timeout" := by
  -- nothing was looked at, so the computations might as well be endless
  have hfaithful : Faithful (fun _ _ _ (_ : Unit) => True) (fun _ => .endless) (tasks.map (·.1)) now
      false (start deadline now tasks) () :=
    faithful_await hnames (fun _ _ _ _ => rfl) (faithful_tasks fun _ _ _ => trivial)
  have hresult := result?_of_awaited (r := start deadline now tasks)
    (awaitAll_eq_nil (Or.inl (decide_eq_true h)))
  exact ⟨_, hresult, hfaithful.result hresult⟩

/-- A round on a clock, from its beginning to its end. -/
theorem follow_start (hp : Behaves poll time plays) {tasks : List (String × α)}
    (hnames : (tasks.map (·.1)).Nodup)
    (htasks : ∀ name task, (name, task) ∈ tasks → plays false (b name) task s)
    {meanwhile : List (σ → σ)} (hm : ∀ f ∈ meanwhile, Happens time plays deadline f)
    (hover : time s < deadline + grace) :
    Concludes (tasks.map (·.1)) (fun name => (b name).reportBy (max (time s) deadline)) time
      deadline (max (time s) deadline)
      ((start deadline (time s) tasks).follow poll time (id :: meanwhile) s) := by
  have hbegun : Faithful plays b (tasks.map (·.1)) (max (time s) deadline) false
      (start deadline (time s) tasks) s :=
    faithful_await hnames (fun h => absurd h (Nat.not_le_of_lt hover)) (faithful_tasks htasks)
  cases hd : (start deadline (time s) tasks).result? with
  | some d =>
    simp only [follow, hd]
    exact ⟨Nat.le_max_left _ _, hbegun.result hd⟩
  | none =>
    have hlast : deadline ≤ time s → max (time s) deadline ≤ time s := fun h =>
      Nat.le_of_eq (Nat.max_eq_left h)
    obtain ⟨hlooked, hend, hsame⟩ :=
      faithful_look hp hnames (Nat.le_max_left _ _) hlast hover hbegun
    simp only [follow, hd, id]
    by_cases hle : deadline ≤ time s
    · -- the deadline has passed, so the first look is the last
      have hresult := result?_of_awaited (hend hle)
      rw [follow_of_result hresult, hsame]
      exact ⟨Nat.le_max_left _ _, hlooked.result hresult⟩
    · have hlt : time s < deadline := Nat.lt_of_not_le hle
      rw [Nat.max_eq_right (Nat.le_of_lt hlt)] at hlooked ⊢
      exact follow_faithful hp hnames hm hlooked (fun _ => hsame.symm ▸ hlt)
        (hsame.symm ▸ Nat.le_of_lt hlt)

end

end Round

end NodeStack.Stack
