import Playbook.Proofs.Run.Chronicle

/-!
The tale of a job: what it has recorded and superseded, attempt by attempt. A law of single attempts
says what holds of one that goes on and of what it comes to. Whatever the law, a job makes its
attempts one after the other, each but the last one failed in a way that allows another one, and its
tale closes with the last one; or with a pause that a cancellation cut short; or with a panic.
-/
namespace Playbook

open Json (Value)

/-- One of the attempts at a step, on the variables that it sees. -/
structure Trial where
  step : Step
  «variables» : List (String × Value)
  number : Nat

/-- What the attempt does when nothing stops it. -/
def Plan.trial (p : Plan) (t : Trial) : Activity Trace.EventKind StepResult :=
  p.attempt t.variables t.step t.number

namespace Job

/-- The attempt that the job makes. -/
def trial (j : Job) : Trial := ⟨j.step, j.variables, j.attempt⟩

/-- A law of single attempts: `G` holds of one that goes on, with what it has recorded so far, and
`E` of what it has come to, in a run that was cancelled by then or not. -/
structure Trials (o : Surroundings) (p : Plan) (G : Nat → Trial → List LogEntry → Working → Prop)
    (E : Bool → Trial → List LogEntry → Except String StepResult → Prop) : Prop where
  refuse : ∀ cancelled now (j : Job), p.isPastDeadline now = true →
    E cancelled j.trial [] (.ok (j.broken .deadline now now))
  halt : ∀ now (j : Job), p.isPastDeadline now = false →
    E true j.trial [j.entry now .stepStarted] (.ok (j.broken .cancelled now now))
  opens : ∀ now turn (j : Job), p.isPastDeadline now = false →
    G now j.trial [j.entry now .stepStarted] (j.opening p now turn)
  ends : ∀ {now} {j : Job} {log w events r}, G now j.trial log w → w.wake.rings now = true →
    w.rest.advance = (events, .done r) →
    E false j.trial (log ++ events.map (j.entry now)) (.ok (r.between w.startedAt now))
  breaks : ∀ {now} {j : Job} {log w events message}, G now j.trial log w →
    w.wake.rings now = true → w.rest.advance = (events, .panic message) →
    E false j.trial (log ++ events.map (j.entry now)) (.error message)
  expires : ∀ {now} {j : Job} {log w events ms rest}, G now j.trial log w →
    w.wake.rings now = true → w.rest.advance = (events, .asleep ms rest) →
    w.cut.rings now = true →
    E false j.trial (log ++ events.map (j.entry now))
      (.ok (j.broken (j.cutError p w) w.startedAt now))
  sleeps : ∀ {now} turn {j : Job} {log w events ms rest}, G now j.trial log w →
    w.wake.rings now = true → w.rest.advance = (events, .asleep ms rest) →
    w.cut.rings now = false →
    G now j.trial (log ++ events.map (j.entry now)) { w with wake := ⟨now + ms, turn⟩, rest }
  interrupt : ∀ {now} {j : Job} {log w}, G now j.trial log w →
    E true j.trial log (.ok (j.broken .cancelled w.startedAt now))
  cut : ∀ {now} {j : Job} {log w}, G now j.trial log w → w.wake.rings now = false →
    w.cut.rings now = true → E false j.trial log (.ok (j.broken (j.cutError p w) w.startedAt now))
  elapses : ∀ {s ms}, o.elapses s ms → ∀ j ∈ s.jobs, ∀ w, j.phase = .working w →
    ∀ log, G s.now j.trial log w → G (s.now + ms) j.trial log w

/-- The entry of an attempt that failed and is followed by another one. -/
structure Renewed (p : Plan) (id : String) (number : Nat) (r : StepResult) (e : LogEntry) :
    Prop where
  failed : r.status = .failed
  room : number ≤ p.retry.retries
  step : e.stepId = some id
  attempt : e.attempt = some number
  moment : e.moment = r.finishedAt
  kind : ∃ error delay, r.error = some error ∧ error.kind.isRetryable = true ∧
    delay ≤ p.retry.maxBackoffMs ∧ e.kind = .stepRetried error delay

theorem Renewed.isRetry {p : Plan} {id : String} {number : Nat} {r : StepResult} {e : LogEntry}
    (h : Renewed p id number r e) : e.isRetry = true := by
  obtain ⟨error, delay, -, -, -, kind⟩ := h.kind
  simp [LogEntry.isRetry, kind]

theorem Renewed.isStart {p : Plan} {id : String} {number : Nat} {r : StepResult} {e : LogEntry}
    (h : Renewed p id number r e) : e.isStart = false := by
  obtain ⟨error, delay, -, -, -, kind⟩ := h.kind
  simp [LogEntry.isStart, kind]

/-- What attempts have recorded that were each followed by another one, and their results. -/
inductive Tale (E : Bool → Trial → List LogEntry → Except String StepResult → Prop) (p : Plan)
    (step : Step) (vars : List (String × Value)) : List LogEntry → List StepResult → Prop
  | nil : Tale E p step vars [] []
  | again {log entries : List LogEntry} {past : List StepResult} {r : StepResult} {e : LogEntry}
      (tale : Tale E p step vars log past)
      (made : E false ⟨step, vars, past.length + 1⟩ entries (.ok r))
      (renewed : Renewed p step.id (past.length + 1) r e) :
      Tale E p step vars (log ++ (entries ++ [e])) (past ++ [{ r with status := .retried }])

end Job

/-- What a job ends with whose last attempt has come to something. -/
def JobOutcome.ofLast (past : List StepResult) : Except String StepResult → JobOutcome
  | .ok r => .finished r past
  | .error message => .panicked message

namespace Job

/-- How the tale of a job closes, in a run that is cancelled by then or not. -/
inductive Closes (E : Bool → Trial → List LogEntry → Except String StepResult → Prop) (p : Plan)
    (cancelled : Bool) (step : Step) (vars : List (String × Value)) :
    List LogEntry → JobOutcome → Prop
  /-- no attempt may follow the last one -/
  | settled {log entries : List LogEntry} {past : List StepResult} {r : StepResult}
      (tale : Tale E p step vars log past)
      (made : E cancelled ⟨step, vars, past.length + 1⟩ entries (.ok r))
      (final : past.length = p.retry.retries ∨ mayRetry cancelled r = false) :
      Closes E p cancelled step vars (log ++ entries) (.finished r past)
  /-- the run was cancelled in the pause after the last attempt -/
  | abandoned {log entries : List LogEntry} {past : List StepResult} {r : StepResult} {e : LogEntry}
      (tale : Tale E p step vars log past)
      (made : E false ⟨step, vars, past.length + 1⟩ entries (.ok r))
      (renewed : Renewed p step.id (past.length + 1) r e) (cut : cancelled = true) :
      Closes E p cancelled step vars (log ++ (entries ++ [e])) (.finished r past)
  | panicked {log entries : List LogEntry} {past : List StepResult} {message : String}
      (tale : Tale E p step vars log past)
      (made : E false ⟨step, vars, past.length + 1⟩ entries (.error message)) :
      Closes E p cancelled step vars (log ++ entries) (.panicked message)

/-- Where a job stands in its tale, in a run that is cancelled or not. -/
def Tells (G : Nat → Trial → List LogEntry → Working → Prop)
    (E : Bool → Trial → List LogEntry → Except String StepResult → Prop) (p : Plan)
    (cancelled : Bool) (now : Nat) (step : Step) (vars : List (String × Value))
    (log : List LogEntry) (j : Job) (q : Point) : Prop :=
  j.step = step ∧ j.variables = vars ∧ j.attempt = j.superseded.length + 1 ∧
    j.backoffMs ≤ p.retry.maxBackoffMs ∧ ∃ past entries, Tale E p step vars past j.superseded ∧
    match q with
    | .starting => j.attempt + j.retriesLeft = p.retry.retries + 1 ∧ log = past
    | .working w => j.attempt + j.retriesLeft = p.retry.retries + 1 ∧ log = past ++ entries ∧
        G now j.trial entries w
    | .concluded r => j.attempt + j.retriesLeft = p.retry.retries + 1 ∧ log = past ++ entries ∧
        E cancelled j.trial entries (.ok r) ∧ r.finishedAt = now
    | .backingOff _ r => j.attempt + j.retriesLeft = p.retry.retries ∧
        E false j.trial entries (.ok r) ∧
        ∃ e, log = past ++ (entries ++ [e]) ∧ Renewed p step.id j.attempt r e

section tells

variable {o : Surroundings} {p : Plan} {G : Nat → Trial → List LogEntry → Working → Prop}
  {E : Bool → Trial → List LogEntry → Except String StepResult → Prop} {now turn : Nat}
  {cancelled : Bool} {step : Step} {vars : List (String × Value)}

/-- What a stretch of the attempt that a job makes leads to, by a law of single attempts. -/
theorem leads_goOn_tells (law : Trials o p G E) (turn : Nat) {log : List LogEntry} {j : Job}
    {w : Working} (h : Tells G E p false now step vars log j (.working w))
    (rings : w.wake.rings now = true) :
    Leads (Tells G E p false now step vars (log ++ (j.goOn p now turn w).1))
      (Closes E p false step vars (log ++ (j.goOn p now turn w).1)) j
      (j.goOn p now turn w).2 := by
  obtain ⟨rfl, rfl, number, pause, past, entries, tale, room, rfl, going⟩ := h
  rw [log_goOn, List.append_assoc]
  rcases goOn_cases p now turn j w with
    ⟨r, hr, hg⟩ | ⟨message, hr, hg⟩ | ⟨ms, rest, hr, ⟨cut, hg⟩ | ⟨uncut, hg⟩⟩
  · have ended := law.ends going rings (Prod.ext rfl hr)
    exact hg ▸ ⟨rfl, rfl, number, pause, past, _, tale, room, rfl, ended, rfl⟩
  · have broken := law.breaks going rings (Prod.ext rfl hr)
    rw [hg]
    refine .panicked tale ?_
    rw [← number]
    exact broken
  · have ended := law.expires going rings (Prod.ext rfl hr) cut
    exact hg ▸ ⟨rfl, rfl, number, pause, past, _, tale, room, rfl, ended, rfl⟩
  · have still := law.sleeps turn going rings (Prod.ext rfl hr) uncut
    exact hg ▸ ⟨rfl, rfl, number, pause, past, _, tale, room, rfl, still⟩

theorem leads_start_tells (law : Trials o p G E) {log : List LogEntry} {j : Job}
    (h : Tells G E p cancelled now step vars log j .starting) :
    Leads (Tells G E p cancelled now step vars (log ++ (j.start p now turn cancelled).1))
      (Closes E p cancelled step vars (log ++ (j.start p now turn cancelled).1)) j
      (j.start p now turn cancelled).2 := by
  obtain ⟨rfl, rfl, number, pause, past, -, tale, room, rfl⟩ := h
  rw [log_start]
  rcases start_cases p now turn cancelled j with
    ⟨late, hs⟩ | ⟨early, cut, hs⟩ | ⟨early, calm, hs⟩
  · rw [hs, if_pos late]
    exact ⟨rfl, rfl, number, pause, log, [], tale, room, rfl, law.refuse cancelled now j late, rfl⟩
  · subst cut
    rw [hs, if_neg (by simp [early]), if_pos rfl]
    exact ⟨rfl, rfl, number, pause, log, _, tale, room, rfl, law.halt now j early, rfl⟩
  · subst calm
    have opened : Tells G E p false now j.step j.variables (log ++ [j.entry now .stepStarted]) j
        (.working (j.opening p now turn)) :=
      ⟨rfl, rfl, number, pause, log, _, tale, room, rfl, law.opens now turn j early⟩
    have leads := leads_goOn_tells law turn opened (by simp [opening, Alarm.rings])
    rw [List.append_assoc] at leads
    rw [hs, if_neg (by simp [early]), if_neg Bool.false_ne_true]
    exact leads

theorem nextBackoffMs_le {r : RetryPolicy} {current : Nat} (h : current ≤ r.maxBackoffMs) :
    r.nextBackoffMs current ≤ r.maxBackoffMs := by
  unfold RetryPolicy.nextBackoffMs
  split
  · exact Nat.zero_le _
  · exact (Nat.min_le_right ..).trans (by omega)

/-- A result that may be followed by another attempt is a failure with an error of such a kind. -/
theorem failed_of_mayRetry {r : StepResult} (retry : mayRetry cancelled r = true) :
    cancelled = false ∧ r.status = .failed ∧
      ∃ error, r.error = some error ∧ error.kind.isRetryable = true := by
  simp only [mayRetry, StepResult.isFailed, StepResult.errorKind, Bool.and_eq_true, beq_iff_eq,
    Bool.not_eq_true', Option.any_map, Option.any_eq_true] at retry
  exact ⟨retry.1.2, retry.1.1, retry.2⟩

theorem logged_tells (law : Trials o p G E) (now turn : Nat) (cancelled : Bool) (step : Step)
    (vars : List (String × Value)) :
    Logged p now turn cancelled (Tells G E p cancelled now step vars)
      (Closes E p cancelled step vars) where
  phase := by
    rintro log j q phase ⟨hs, hv, number, pause, past, entries, tale, hq⟩
    cases q <;> exact ⟨hs, hv, number, pause, past, entries, tale, hq⟩
  start log j h := leads_start_tells law h
  goOn := by
    rintro log j w h rfl rings
    exact leads_goOn_tells law turn h rings
  interrupt := by
    rintro log j w ⟨hs, hv, number, pause, past, entries, tale, room, hlog, going⟩ rfl
    exact ⟨hs, hv, number, pause, past, entries, tale, room, hlog, law.interrupt going, rfl⟩
  cut := by
    rintro log j w ⟨hs, hv, number, pause, past, entries, tale, room, hlog, going⟩ rfl asleep cut
    exact ⟨hs, hv, number, pause, past, entries, tale, room, hlog, law.cut going asleep cut, rfl⟩
  giveUp := by
    rintro log j r ⟨rfl, rfl, number, -, past, entries, tale, room, rfl, made, -⟩ last
    rw [trial, number] at made
    exact .settled tale made (last.imp_left fun none => by omega)
  retryLater := by
    rintro log j r left ⟨rfl, rfl, number, pause, past, entries, tale, room, rfl, made, moment⟩
      hleft retry
    obtain ⟨rfl, failed, error, he, retryable⟩ := failed_of_mayRetry retry
    refine ⟨rfl, rfl, number, pause, past, entries, tale, ?_, made, j.retriedEntry now r,
      List.append_assoc .., ?_⟩
    · change j.attempt + left = _
      omega
    · refine ⟨failed, ?_, rfl, rfl, moment.symm, error, j.backoffMs, he, retryable, pause, ?_⟩
      · change j.attempt ≤ _
        omega
      · simp [retriedEntry, entry, he]
  resume := by
    rintro log j wake r ⟨rfl, rfl, number, pause, past, entries, tale, room, made, e, rfl, renewed⟩
      - -
    refine ⟨rfl, rfl, ?_, nextBackoffMs_le pause, _, [], .again tale (number ▸ made)
      (number ▸ renewed), ?_, rfl⟩
    · simp [next, number]
    · change j.attempt + 1 + j.retriesLeft = _
      omega
  abandon := by
    rintro log j wake r ⟨rfl, rfl, number, -, past, entries, tale, -, made, e, rfl, renewed⟩ cut
    rw [trial, number] at made
    exact .abandoned tale made (number ▸ renewed) cut

/-- Where a job waits it is of no account for its tale so far whether the run is cancelled. -/
theorem Tells.of_point {c : Bool} {log : List LogEntry} {j : Job}
    (h : Tells G E p c now step vars log j j.point) (cancelled : Bool) :
    Tells G E p cancelled now step vars log j j.point := by
  obtain ⟨hs, hv, number, pause, past, entries, tale, hq⟩ := h
  refine ⟨hs, hv, number, pause, past, entries, tale, ?_⟩
  unfold point at hq ⊢
  cases phase : j.phase <;> rw [phase] at hq <;> exact hq

/-- That jobs make their attempts one after the other is a law of jobs, whatever the law of single
attempts. -/
theorem logLaw_tells (law : Trials o p G E)
    (bounded : p.retry.initialBackoffMs ≤ p.retry.maxBackoffMs) :
    LogLaw o p (Tells G E p false) (Closes E p) where
  own h := ⟨h.1, h.2.1⟩
  begins _ _ vars := ⟨rfl, rfl, rfl, bounded, [], [], .nil, Nat.add_comm .., rfl⟩
  polls := by
    intro now step vars log j h turn cancelled
    have settles := (logged_tells law now turn cancelled step vars).poll log (h.of_point cancelled)
    cases polled : (j.poll p now turn cancelled).2 with
    | waiting j' =>
      rw [polled] at settles
      exact settles.of_point false
    | ended outcome =>
      rw [polled] at settles
      exact settles
  elapses := by
    rintro s ms allowed j mem log ⟨hs, hv, number, pause, past, entries, tale, hq⟩
    refine ⟨hs, hv, number, pause, past, entries, tale, ?_⟩
    unfold point at hq ⊢
    cases phase : j.phase with
    | starting | backingOff =>
      rw [phase] at hq
      exact hq
    | working w =>
      rw [phase] at hq
      obtain ⟨room, hlog, going⟩ := hq
      exact ⟨room, hlog, law.elapses allowed j mem w phase entries going⟩

end tells

section tale

variable {p : Plan} {E : Bool → Trial → List LogEntry → Except String StepResult → Prop}
  {step : Step} {vars : List (String × Value)} {log : List LogEntry} {past : List StepResult}

/-- Each superseded result is that of the attempt of its place, which failed. -/
theorem Tale.own (h : Tale E p step vars log past) :
    ∃ own : List StepResult, past = own.map (fun r => { r with status := .retried }) ∧
      ∀ k r, own[k]? = some r → ∃ entries e, E false ⟨step, vars, k + 1⟩ entries (.ok r) ∧
        Renewed p step.id (k + 1) r e ∧ entries ++ [e] ⊆ log := by
  induction h with
  | nil => exact ⟨[], rfl, by simp⟩
  | @again log entries past r e tale made renewed ih =>
    obtain ⟨own, rfl, results⟩ := ih
    refine ⟨own ++ [r], by simp, fun k x hx => ?_⟩
    simp only [List.length_map] at made renewed
    rcases Nat.lt_or_ge k own.length with hk | hk
    · rw [List.getElem?_append_left hk] at hx
      obtain ⟨before, e', made, renewed, within⟩ := results k x hx
      exact ⟨before, e', made, renewed, fun y hy => List.mem_append_left _ (within hy)⟩
    · rw [List.getElem?_append_right hk, List.getElem?_singleton] at hx
      obtain ⟨last, rfl⟩ : k = own.length ∧ r = x := by
        split at hx
        · next last => exact ⟨by omega, Option.some.inj hx⟩
        · cases hx
      exact last ▸ ⟨entries, e, made, renewed, List.subset_append_right ..⟩

/-- The entry is one of an attempt that another one follows, or tells that it does. -/
def Followed (E : Bool → Trial → List LogEntry → Except String StepResult → Prop) (p : Plan)
    (step : Step) (vars : List (String × Value)) (log : List LogEntry) (x : LogEntry) : Prop :=
  ∃ number r entries e, E false ⟨step, vars, number⟩ entries (.ok r) ∧
    Renewed p step.id number r e ∧ entries ++ [e] ⊆ log ∧ (x ∈ entries ∨ x = e)

theorem Followed.mono {more : List LogEntry} {x : LogEntry} (h : Followed E p step vars log x)
    (within : log ⊆ more) : Followed E p step vars more x := by
  obtain ⟨number, r, entries, e, made, renewed, among, hx⟩ := h
  exact ⟨number, r, entries, e, made, renewed, fun _ mem => within (among mem), hx⟩

/-- Each entry is one of an attempt whose result is superseded, or tells that another one follows. -/
theorem Tale.mem (h : Tale E p step vars log past) {x : LogEntry} (mem : x ∈ log) :
    ∃ k r entries e, past[k]? = some { r with status := .retried } ∧
      E false ⟨step, vars, k + 1⟩ entries (.ok r) ∧ Renewed p step.id (k + 1) r e ∧
      entries ++ [e] ⊆ log ∧ (x ∈ entries ∨ x = e) := by
  induction h with
  | nil => cases mem
  | @again log entries past r e tale made renewed ih =>
    rcases List.mem_append.1 mem with mem | mem
    · obtain ⟨k, r', entries', e', hk, made', renewed', within, hx⟩ := ih mem
      refine ⟨k, r', entries', e', ?_, made', renewed',
        fun y hy => List.mem_append_left _ (within hy), hx⟩
      rw [List.getElem?_append_left (List.getElem?_eq_some_iff.1 hk).1]
      exact hk
    · refine ⟨past.length, r, entries, e, by simp, made, renewed, List.subset_append_right .., ?_⟩
      simpa using mem

theorem Tale.followed (h : Tale E p step vars log past) {x : LogEntry} (mem : x ∈ log) :
    Followed E p step vars log x := by
  obtain ⟨k, r, entries, e, -, made⟩ := h.mem mem
  exact ⟨k + 1, r, entries, e, made⟩

theorem Tale.starts_le (h : Tale E p step vars log past)
    (once : ∀ t entries r, E false t entries (.ok r) →
      (entries.filter LogEntry.isStart).length ≤ 1) :
    (log.filter LogEntry.isStart).length ≤ past.length := by
  induction h with
  | nil => exact Nat.le_refl 0
  | @again log entries past r e tale made renewed ih =>
    have one := once _ _ _ made
    simp only [List.filter_append, List.length_append, List.filter_cons, renewed.isStart,
      Bool.false_eq_true, if_false, List.filter_nil, List.length_cons, List.length_nil]
    omega

/-- One entry tells of another attempt for each superseded result, if attempts do not tell so
themselves. -/
theorem Tale.count (h : Tale E p step vars log past)
    (silent : ∀ t entries r, E false t entries (.ok r) → entries.filter LogEntry.isRetry = []) :
    (log.filter LogEntry.isRetry).length = past.length := by
  induction h with
  | nil => rfl
  | @again log entries past r e tale made renewed ih =>
    simp [List.filter_append, ih, silent _ _ _ made, renewed.isRetry]

/-- Whatever the last attempt has come to, the job ends with it. -/
theorem Closes.last {cancelled : Bool} {outcome : JobOutcome}
    (h : Closes E p cancelled step vars log outcome) :
    ∃ before entries tail past c came, Tale E p step vars before past ∧
      E c ⟨step, vars, past.length + 1⟩ entries came ∧ (c = true → cancelled = true) ∧
      log = before ++ (entries ++ tail) ∧ outcome = .ofLast past came ∧
      (tail = [] ∨ ∃ r e, tail = [e] ∧ c = false ∧ came = .ok r ∧
        Renewed p step.id (past.length + 1) r e) := by
  cases h with
  | @settled before entries past r tale made =>
    exact ⟨before, entries, [], past, cancelled, .ok r, tale, made, id, by simp, rfl, .inl rfl⟩
  | @abandoned before entries past r e tale made renewed =>
    exact ⟨before, entries, [e], past, false, .ok r, tale, made, Bool.noConfusion, rfl, rfl,
      .inr ⟨r, e, rfl, rfl, rfl, renewed⟩⟩
  | @panicked before entries past message tale made =>
    exact ⟨before, entries, [], past, false, .error message, tale, made, Bool.noConfusion, by simp, rfl,
      .inl rfl⟩

/-- Each entry of a job that goes on is one of the attempt that goes on, or of one before it. -/
theorem Tells.mem {G : Nat → Trial → List LogEntry → Working → Prop} {now : Nat} {j : Job}
    (h : Tells G E p false now step vars log j j.point) {x : LogEntry} (mem : x ∈ log) :
    (∃ w entries, j.phase = .working w ∧ G now j.trial entries w ∧ entries ⊆ log ∧ x ∈ entries) ∨
      Followed E p step vars log x := by
  obtain ⟨rfl, rfl, -, -, before, entries, tale, hq⟩ := h
  unfold point at hq
  cases phase : j.phase with
  | starting =>
    rw [phase] at hq
    obtain ⟨-, rfl⟩ := hq
    exact .inr (tale.followed mem)
  | working w =>
    rw [phase] at hq
    obtain ⟨-, rfl, going⟩ := hq
    rcases List.mem_append.1 mem with mem | mem
    · exact .inr ((tale.followed mem).mono (List.subset_append_left ..))
    · exact .inl ⟨w, entries, rfl, going, List.subset_append_right .., mem⟩
  | backingOff wake r =>
    rw [phase] at hq
    obtain ⟨-, made, e, rfl, renewed⟩ := hq
    rcases List.mem_append.1 mem with mem | mem
    · exact .inr ((tale.followed mem).mono (List.subset_append_left ..))
    · refine .inr ⟨j.attempt, r, entries, e, made, renewed, List.subset_append_right .., ?_⟩
      simpa using mem

/-- Each entry of a job that has ended is one of its last attempt, or of one before it. -/
theorem Closes.mem {cancelled : Bool} {outcome : JobOutcome}
    (h : Closes E p cancelled step vars log outcome) {x : LogEntry} (mem : x ∈ log) :
    (∃ number past c entries came, E c ⟨step, vars, number⟩ entries came ∧
      (c = true → cancelled = true) ∧ outcome = .ofLast past came ∧ entries ⊆ log ∧
      x ∈ entries) ∨ Followed E p step vars log x := by
  obtain ⟨before, entries, tail, past, c, came, tale, made, cut, rfl, last, closed⟩ := h.last
  rcases List.mem_append.1 mem with mem | mem
  · exact .inr ((tale.followed mem).mono (List.subset_append_left ..))
  · rcases closed with rfl | ⟨r, e, rfl, rfl, rfl, renewed⟩
    · rw [List.append_nil] at mem ⊢
      exact .inl ⟨_, past, c, entries, came, made, cut, last, List.subset_append_right .., mem⟩
    · refine .inr ⟨_, r, entries, e, made, renewed, List.subset_append_right .., ?_⟩
      simpa using mem

end tale
end Job

namespace RunState

/-- The entry is not one of an attempt: it neither starts one nor tells of another one, nor do
handlers record such an entry. -/
def Plain (e : LogEntry) : Prop :=
  e.isStart = false ∧ e.isRetry = false ∧ e.kind.ofHandler = false

theorem OfLoop.plain {e : LogEntry} (h : OfLoop e) : Plain e := by
  unfold OfLoop at h
  unfold Plain LogEntry.isStart LogEntry.isRetry Trace.EventKind.ofHandler
  cases kind : e.kind <;> simp_all

theorem plain_finishEntry (moment : Nat) (r : StepResult) : Plain (finishEntry moment r) := by
  unfold finishEntry terminalKind
  cases r.status <;> exact ⟨rfl, rfl, rfl⟩

/-- In some state up to `s` the run was cancelled while the step was in flight. -/
def CalledOff (o : Surroundings) (p : Plan) (origin s : RunState) (id : String) : Prop :=
  ∃ u j, Reaches o p origin u ∧ Reaches o p u s ∧ u.cancelled = true ∧ j ∈ u.jobs ∧ j.step.id = id

/-- The job of the step has ended with this outcome, which may have been noted by now. -/
def Ended (s : RunState) (id : String) (outcome : JobOutcome) : Prop :=
  (⟨id, outcome⟩ : EndedJob) ∈ s.ended ∨
    ∃ moment, (⟨id, outcome⟩ : EndedJob).result moment ∈ s.results

/-- Where an entry that an attempt at a step has recorded comes from. -/
inductive Explained (G : Nat → Trial → List LogEntry → Working → Prop)
    (E : Bool → Trial → List LogEntry → Except String StepResult → Prop) (o : Surroundings)
    (p : Plan) (origin s : RunState) (e : LogEntry) : Step → List (String × Value) → Prop
  /-- the attempt goes on -/
  | going {j : Job} {w : Working} {entries : List LogEntry} (job : j ∈ s.jobs)
      (phase : j.phase = .working w) (going : G s.now j.trial entries w) (within : entries ⊆ s.log)
      (mem : e ∈ entries) : Explained G E o p origin s e j.step j.variables
  /-- another attempt follows it -/
  | followed {step : Step} {vars : List (String × Value)}
      (followed : Job.Followed E p step vars s.log e) : Explained G E o p origin s e step vars
  /-- the job has ended with it -/
  | last {step : Step} {vars : List (String × Value)} {number : Nat} {past : List StepResult}
      {c : Bool} {entries : List LogEntry} {came : Except String StepResult}
      (made : E c ⟨step, vars, number⟩ entries came)
      (cut : c = true → CalledOff o p origin s step.id)
      (ended : Ended s step.id (.ofLast past came)) (within : entries ⊆ s.log)
      (mem : e ∈ entries) : Explained G E o p origin s e step vars

section reached

variable {o : Surroundings} {p : Plan} {origin s : RunState} {context : RunContext}
  {cancelled : Bool} {G : Nat → Trial → List LogEntry → Working → Prop}
  {E : Bool → Trial → List LogEntry → Except String StepResult → Prop} {e : LogEntry}

/-- What is recorded about no step is not recorded by an attempt. -/
theorem plain_of_run (reached : Reaches o p (start p context cancelled) s) :
    ∀ e ∈ s.log, e.stepId = none → Plain e := by
  have adds : ∀ {s t : RunState}, Adds (fun e => e.stepId = none → Plain e) s t →
      (∀ e ∈ s.log, e.stepId = none → Plain e) → ∀ e ∈ t.log, e.stepId = none → Plain e := by
    rintro s t ⟨new, log, plain⟩ before
    rw [log]
    exact List.forall_mem_append.2 ⟨before, plain⟩
  refine reached.keeps (P := fun s => ∀ e ∈ s.log, e.stepId = none → Plain e)
    (fun s t before m => ?_) ?_
  · cases m with
    | act m =>
      exact adds ((adds_ofLoop_of_act (act_of_act? m)).mono fun e ofLoop _ => ofLoop.plain) before
    | poll m =>
      refine adds ((adds_of_poll (poll_of_poll? m)).mono fun e about none => ?_) before
      obtain ⟨id, -, own⟩ := about
      simp [own] at none
    | cancel | elapse => exact before
  · refine adds ((adds_skips ..).mono fun e noted _ => noted.ofLoop.plain) fun e mem _ => ?_
    cases List.mem_singleton.1 mem
    exact ⟨rfl, rfl, rfl⟩

theorem explained_of_concluded {id : String} {outcome : JobOutcome} {log : List LogEntry}
    (h : Concluded (Job.Closes E p) o p origin s ⟨id, outcome⟩ log) (ended : Ended s id outcome)
    (within : log ⊆ s.log) (mem : e ∈ log) :
    ∃ step vars, Dispatched o p origin s step vars ∧ Explained G E o p origin s e step vars := by
  obtain ⟨before, job, own, dispatched, polls, -, -, lawful, later⟩ := h
  have after := Relation.ReflTransGen.head (.poll polls) later
  obtain rfl : _ = id := own
  refine ⟨_, _, dispatched.later after, ?_⟩
  rcases lawful.mem mem with
    ⟨number, past, c, entries, came, made, cut, rfl, among, mem⟩ | followed
  · refine .last made (fun short => ?_) ended (fun _ hx => within (among hx)) mem
    exact ⟨_, _, before, after, cut short, job, rfl⟩
  · exact .followed (followed.mono within)

/-- Each entry that an attempt has recorded comes from an attempt at a step that was started. -/
theorem explained (chronicled : Chronicled (Dispatched o p origin s)
      (Concluded (Job.Closes E p) o p origin s) (Job.Tells G E p false) s)
    (anonymous : ∀ e ∈ s.log, e.stepId = none → Plain e) (mem : e ∈ s.log) (own : ¬ Plain e) :
    ∃ step vars, Dispatched o p origin s step vars ∧ Explained G E o p origin s e step vars := by
  obtain ⟨id, about⟩ := Option.ne_none_iff_exists'.1 fun none => own (anonymous e mem none)
  have among : e ∈ entriesOf id s.log := mem_entriesOf.2 ⟨mem, about⟩
  have within : entriesOf id s.log ⊆ s.log := entriesOf_subset ..
  rcases chronicled.located id with none | ⟨j, job, rfl⟩ | ⟨⟨id, outcome⟩, ended, rfl⟩ |
    ⟨r, result, rfl⟩
  · simp [none] at among
  · obtain ⟨dispatched, tells⟩ := chronicled.jobs j job
    refine ⟨j.step, j.variables, dispatched, ?_⟩
    rcases tells.mem among with ⟨w, entries, phase, going, inner, mem⟩ | followed
    · exact .going job phase going (fun _ hx => within (inner hx)) mem
    · exact .followed (followed.mono within)
  · exact explained_of_concluded (chronicled.ended _ ended) (.inl ended) within among
  · have entered := chronicled.results r result
    generalize entriesOf r.stepId s.log = log, retriedOf r.stepId s = retried
      at entered among within
    cases entered with
    | @unattempted moment =>
      exact absurd (List.mem_singleton.1 among ▸ plain_finishEntry moment r) own
    | @attempted ended moment log closed same noted =>
      rcases List.mem_append.1 among with among | among
      · refine explained_of_concluded closed (.inr ⟨moment, noted ▸ result⟩)
          (fun _ hx => within (List.mem_append_left _ hx)) among
      · exact absurd (List.mem_singleton.1 among ▸ plain_finishEntry moment r) own

end reached
end RunState
end Playbook
