import Rptp.Message.Types
import Rptp.Time.Interval

/-! # The timeouts of the daemon

A timeout of the daemon sleeps in a task of the runtime. To restart it means to abort its task and to
spawn another one, and a timeout that is dropped takes its task along. The runtime polls its tasks
whenever it likes. Seen from outside every timeout is a one-shot: it delivers one message for each
restart, not before the delay has passed, and none if it was restarted or dropped in the meantime.
-/

namespace Rptp

open Function

/-- The calls of a port on its timer host, the timeouts being numbered in the order of their
creation. -/
inductive TimerCall where
  | timeout (msg : SystemMessage)
  | restart (k : ℕ) (delay : Duration)
  | restartWithMessage (k : ℕ) (msg : SystemMessage) (delay : Duration)
  | drop (k : ℕ)

/-- A task that sleeps and then sends its message. The sleep begins when the task is polled first. -/
structure SleepTask where
  msg : SystemMessage
  delay : Duration
  deadline : Option ℕ

structure TokioTimeout where
  msg : SystemMessage
  handle : Option ℕ

/-- The timeouts that are not dropped, the tasks that have not ended, and what was sent. -/
structure TokioRuntime where
  now : ℕ
  created : ℕ
  timeouts : ℕ → Option TokioTimeout
  spawned : ℕ
  tasks : ℕ → Option SleepTask
  sent : List SystemMessage

/-- What happens next: a call of the port, or the runtime lets time pass or polls a task. -/
inductive RuntimeEvent where
  | call (c : TimerCall)
  | elapse (nanos : ℕ)
  | poll (task : ℕ)

namespace TokioRuntime

def new : TokioRuntime := ⟨0, 0, fun _ => none, 0, fun _ => none, []⟩

def timeout (msg : SystemMessage) (w : TokioRuntime) : TokioRuntime :=
  { w with created := w.created + 1, timeouts := update w.timeouts w.created (some ⟨msg, none⟩) }

/-- To abort a task that has ended does nothing. -/
def abort (w : TokioRuntime) : Option ℕ → TokioRuntime
  | some task => { w with tasks := update w.tasks task none }
  | none => w

section Abort

variable (w : TokioRuntime) (handle : Option ℕ)

@[simp] theorem abort_now : (w.abort handle).now = w.now := by cases handle <;> rfl

@[simp] theorem abort_created : (w.abort handle).created = w.created := by cases handle <;> rfl

@[simp] theorem abort_timeouts : (w.abort handle).timeouts = w.timeouts := by cases handle <;> rfl

@[simp] theorem abort_spawned : (w.abort handle).spawned = w.spawned := by cases handle <;> rfl

@[simp] theorem abort_sent : (w.abort handle).sent = w.sent := by cases handle <;> rfl

end Abort

/-- Abort the task of the timeout and spawn another one. -/
def reset (k : ℕ) (t : TokioTimeout) (delay : Duration) (w : TokioRuntime) : TokioRuntime :=
  let w := w.abort t.handle
  { w with
    spawned := w.spawned + 1
    tasks := update w.tasks w.spawned (some ⟨t.msg, delay, none⟩)
    timeouts := update w.timeouts k (some { t with handle := some w.spawned }) }

def restart (k : ℕ) (delay : Duration) (w : TokioRuntime) : TokioRuntime :=
  match w.timeouts k with
  | some t => w.reset k t delay
  | none => w

/-- Without a delay the message is sent at once, and a task that sleeps is left alone. -/
def restartWithMessage (k : ℕ) (msg : SystemMessage) (delay : Duration) (w : TokioRuntime) :
    TokioRuntime :=
  match w.timeouts k with
  | some t =>
    if delay.nanos = 0 then
      { w with timeouts := update w.timeouts k (some { t with msg }), sent := w.sent ++ [msg] }
    else w.reset k { t with msg } delay
  | none => w

def drop (k : ℕ) (w : TokioRuntime) : TokioRuntime :=
  match w.timeouts k with
  | some t => { w.abort t.handle with timeouts := update w.timeouts k none }
  | none => w

/-- The first poll starts the sleep, and one after its end sends the message. -/
def poll (task : ℕ) (w : TokioRuntime) : TokioRuntime :=
  match w.tasks task with
  | some t =>
    match t.deadline with
    | none =>
      { w with tasks := update w.tasks task (some { t with deadline := some (w.now + t.delay.nanos) }) }
    | some deadline =>
      if deadline ≤ w.now then
        { w with tasks := update w.tasks task none, sent := w.sent ++ [t.msg] }
      else w
  | none => w

def call (w : TokioRuntime) : TimerCall → TokioRuntime
  | .timeout msg => w.timeout msg
  | .restart k delay => w.restart k delay
  | .restartWithMessage k msg delay => w.restartWithMessage k msg delay
  | .drop k => w.drop k

def step (w : TokioRuntime) : RuntimeEvent → TokioRuntime
  | .call c => w.call c
  | .elapse nanos => { w with now := w.now + nanos }
  | .poll task => w.poll task

def run (w : TokioRuntime) (events : List RuntimeEvent) : TokioRuntime := events.foldl step w

end TokioRuntime

/-- A one-shot: its message, and what it delivers from when on if it is armed. -/
structure OneShot where
  msg : SystemMessage
  armed : Option (SystemMessage × ℕ)

structure OneShots where
  now : ℕ
  created : ℕ
  timeouts : ℕ → Option OneShot
  sent : List SystemMessage

/-- What happens next to one-shots: a call, time passes, or one of them delivers. -/
inductive OneShotEvent where
  | call (c : TimerCall)
  | elapse (nanos : ℕ)
  | deliver (k : ℕ)

namespace OneShots

def new : OneShots := ⟨0, 0, fun _ => none, []⟩

def timeout (msg : SystemMessage) (a : OneShots) : OneShots :=
  { a with created := a.created + 1, timeouts := update a.timeouts a.created (some ⟨msg, none⟩) }

def restart (k : ℕ) (delay : Duration) (a : OneShots) : OneShots :=
  match a.timeouts k with
  | some o =>
    { a with timeouts := update a.timeouts k (some ⟨o.msg, some (o.msg, a.now + delay.nanos)⟩) }
  | none => a

/-- Without a delay the message is delivered at once. -/
def restartWithMessage (k : ℕ) (msg : SystemMessage) (delay : Duration) (a : OneShots) : OneShots :=
  match a.timeouts k with
  | some o =>
    if delay.nanos = 0 then
      { a with timeouts := update a.timeouts k (some { o with msg }), sent := a.sent ++ [msg] }
    else
      { a with timeouts := update a.timeouts k (some ⟨msg, some (msg, a.now + delay.nanos)⟩) }
  | none => a

def drop (k : ℕ) (a : OneShots) : OneShots := { a with timeouts := update a.timeouts k none }

def call (a : OneShots) : TimerCall → OneShots
  | .timeout msg => a.timeout msg
  | .restart k delay => a.restart k delay
  | .restartWithMessage k msg delay => a.restartWithMessage k msg delay
  | .drop k => a.drop k

/-- A one-shot delivers once, and not before its time. -/
inductive Step : OneShots → OneShotEvent → OneShots → Prop
  | call (a : OneShots) (c : TimerCall) : Step a (.call c) (a.call c)
  | elapse (a : OneShots) (nanos : ℕ) : Step a (.elapse nanos) { a with now := a.now + nanos }
  | deliver (a : OneShots) (k : ℕ) (o : OneShot) (msg : SystemMessage) (earliest : ℕ)
      (ho : a.timeouts k = some o) (harmed : o.armed = some (msg, earliest))
      (hdue : earliest ≤ a.now) :
      Step a (.deliver k) { a with
        timeouts := update a.timeouts k (some { o with armed := none })
        sent := a.sent ++ [msg] }

inductive Run (a : OneShots) : List OneShotEvent → OneShots → Prop
  | start : Run a [] a
  | next {events : List OneShotEvent} {b c : OneShots} {event : OneShotEvent} (h : Run a events b)
      (hstep : Step b event c) : Run a (events ++ [event]) c

end OneShots

/-- The task of a timeout, unless it has ended. -/
def TokioTimeout.task (tasks : ℕ → Option SleepTask) (t : TokioTimeout) : Option SleepTask :=
  t.handle.bind tasks

/-- The time from which on a task sends. -/
def SleepTask.due (now : ℕ) (task : SleepTask) : ℕ := task.deadline.getD (now + task.delay.nanos)

/-- A timeout with a task that sleeps is armed with the message of the task. -/
structure Shows (now : ℕ) (tasks : ℕ → Option SleepTask) (o : OneShot) (t : TokioTimeout) : Prop where
  msg : o.msg = t.msg
  armed : Option.Rel (fun armed task => armed.1 = task.msg ∧ armed.2 ≤ task.due now) o.armed
    (t.task tasks)

/-- The timeouts of a runtime are one-shots, and each of its tasks belongs to one of them. -/
structure Refines (a : OneShots) (w : TokioRuntime) : Prop where
  now : a.now = w.now
  created : a.created = w.created
  sent : a.sent = w.sent
  timeouts : ∀ k, Option.Rel (Shows w.now w.tasks) (a.timeouts k) (w.timeouts k)
  owned : ∀ i task, w.tasks i = some task → ∃ k t, w.timeouts k = some t ∧ t.handle = some i
  single : ∀ k k' t t' i, w.timeouts k = some t → w.timeouts k' = some t' → t.handle = some i →
    t'.handle = some i → k = k'
  spawned : ∀ k t i, w.timeouts k = some t → t.handle = some i → i < w.spawned
  fresh : ∀ i, w.spawned ≤ i → w.tasks i = none
  uncreated : ∀ k, w.created ≤ k → w.timeouts k = none

theorem Shows.congr {o : OneShot} {t : TokioTimeout} {tasks tasks' : ℕ → Option SleepTask} {now : ℕ} (h : Shows now tasks o t)
    (htasks : ∀ i, t.handle = some i → tasks' i = tasks i) : Shows now tasks' o t := by
  refine ⟨h.msg, ?_⟩
  have htask : t.task tasks' = t.task tasks := by
    unfold TokioTimeout.task
    cases hhandle : t.handle with
    | none => rfl
    | some i => exact htasks i hhandle
  rw [htask]
  exact h.armed

/-- What a change of one timeout and its task leaves alone. -/
structure ChangesOne (w w' : TokioRuntime) (k : ℕ) (x : Option TokioTimeout) : Prop where
  now : w'.now = w.now
  timeouts : w'.timeouts = update w.timeouts k x
  number : k < w'.created
  created : w.created ≤ w'.created
  spawned : w.spawned ≤ w'.spawned
  fresh : ∀ i, w'.spawned ≤ i → w'.tasks i = none
  others : ∀ k' t i, k' ≠ k → w.timeouts k' = some t → t.handle = some i → w'.tasks i = w.tasks i
  owned : ∀ i task, w'.tasks i = some task →
    (∃ k' t, k' ≠ k ∧ w.timeouts k' = some t ∧ t.handle = some i) ∨ ∃ t ∈ x, t.handle = some i
  handle : ∀ t i, t ∈ x → t.handle = some i →
    i < w'.spawned ∧ ∀ k' t', k' ≠ k → w.timeouts k' = some t' → t'.handle ≠ some i

namespace Refines

variable {a a' : OneShots} {w w' : TokioRuntime} {k : ℕ} {t : TokioTimeout} {o : OneShot}
  {delay : Duration}

theorem timeout_cases (h : Refines a w) (k : ℕ) :
    (a.timeouts k = none ∧ w.timeouts k = none) ∨
      ∃ o t, a.timeouts k = some o ∧ w.timeouts k = some t ∧ Shows w.now w.tasks o t := by
  have hrel := h.timeouts k
  generalize ho : a.timeouts k = x at hrel
  generalize ht : w.timeouts k = y at hrel
  cases hrel with
  | none => exact .inl ⟨rfl, rfl⟩
  | some hshows => exact .inr ⟨_, _, rfl, rfl, hshows⟩

theorem number_lt (h : Refines a w) (ht : w.timeouts k = some t) : k < w.created := by
  by_contra hk
  rw [h.uncreated k (not_lt.mp hk)] at ht
  cases ht

/-- To change one timeout it is enough to look at that one. -/
theorem framed {x : Option TokioTimeout} {y : Option OneShot} (h : Refines a w)
    (hw : ChangesOne w w' k x) (hnow : a'.now = a.now) (hcreated : a'.created = w'.created)
    (hsent : a'.sent = w'.sent) (ha : a'.timeouts = update a.timeouts k y)
    (hshows : Option.Rel (Shows w'.now w'.tasks) y x) : Refines a' w' := by
  have hcases : ∀ {k' t}, w'.timeouts k' = some t →
      (k' = k ∧ t ∈ x) ∨ (k' ≠ k ∧ w.timeouts k' = some t) := by
    intro k' t ht
    rw [hw.timeouts, update_apply] at ht
    split_ifs at ht with hk
    · exact .inl ⟨hk, ht⟩
    · exact .inr ⟨hk, ht⟩
  refine ⟨?_, hcreated, hsent, ?_, ?_, ?_, ?_, hw.fresh, ?_⟩
  · rw [hnow, hw.now, h.now]
  · intro k'
    rw [ha, hw.timeouts, update_apply, update_apply]
    split_ifs with hk
    · exact hshows
    · rw [hw.now]
      rcases h.timeout_cases k' with ⟨ho, ht⟩ | ⟨o, t, ho, ht, hold⟩
      · rw [ho, ht]
        exact .none
      · rw [ho, ht]
        exact .some (hold.congr fun i hi => hw.others k' t i hk ht hi)
  · intro i task htask
    rcases hw.owned i task htask with ⟨k', t, hk, ht, hi⟩ | ⟨t, ht, hi⟩
    · refine ⟨k', t, ?_, hi⟩
      rw [hw.timeouts, update_of_ne hk]
      exact ht
    · refine ⟨k, t, ?_, hi⟩
      rw [hw.timeouts, update_self]
      exact ht
  · intro k₁ k₂ t₁ t₂ i h₁ h₂ hi₁ hi₂
    rcases hcases h₁ with ⟨rfl, hx₁⟩ | ⟨hk₁, ht₁⟩
    · rcases hcases h₂ with ⟨rfl, -⟩ | ⟨hk₂, ht₂⟩
      · rfl
      · exact absurd hi₂ ((hw.handle t₁ i hx₁ hi₁).2 k₂ t₂ hk₂ ht₂)
    · rcases hcases h₂ with ⟨rfl, hx₂⟩ | ⟨hk₂, ht₂⟩
      · exact absurd hi₁ ((hw.handle t₂ i hx₂ hi₂).2 k₁ t₁ hk₁ ht₁)
      · exact h.single k₁ k₂ t₁ t₂ i ht₁ ht₂ hi₁ hi₂
  · intro k' t i ht hi
    rcases hcases ht with ⟨-, hx⟩ | ⟨-, ht⟩
    · exact (hw.handle t i hx hi).1
    · exact (h.spawned k' t i ht hi).trans_le hw.spawned
  · intro k' hk'
    rw [hw.timeouts, update_of_ne (hw.number.trans_le hk').ne']
    exact h.uncreated k' (hw.created.trans hk')

theorem not_other (h : Refines a w) (ht : w.timeouts k = some t) {i : ℕ} (hi : t.handle = some i)
    (k' : ℕ) (t' : TokioTimeout) (hk : k' ≠ k) (ht' : w.timeouts k' = some t') :
    t'.handle ≠ some i :=
  fun hi' => hk (h.single k' k t' t i ht' ht hi' hi)

theorem timeout (h : Refines a w) (msg : SystemMessage) :
    Refines (a.timeout msg) (w.timeout msg) := by
  have hone : ChangesOne w (w.timeout msg) w.created (some ⟨msg, none⟩) := by
    refine ⟨rfl, rfl, Nat.lt_succ_self _, Nat.le_succ _, le_rfl, h.fresh, fun _ _ _ _ _ _ => rfl,
      fun i task htask => ?_, ?_⟩
    · obtain ⟨k, t, ht, hi⟩ := h.owned i task htask
      exact .inl ⟨k, t, (h.number_lt ht).ne, ht, hi⟩
    · rintro t i ⟨⟩ ⟨⟩
  have hshows : Shows w.now w.tasks ⟨msg, none⟩ ⟨msg, none⟩ := ⟨rfl, .none⟩
  refine h.framed hone rfl ?_ h.sent ?_ (.some hshows)
  · exact congrArg (· + 1) h.created
  · rw [← h.created]
    rfl

section Abort

theorem others_abort (h : Refines a w) (ht : w.timeouts k = some t) (k' : ℕ) (t' : TokioTimeout)
    (i : ℕ) (hk : k' ≠ k) (ht' : w.timeouts k' = some t') (hi : t'.handle = some i) :
    (w.abort t.handle).tasks i = w.tasks i := by
  cases hhandle : t.handle with
  | none => rfl
  | some j =>
    refine update_of_ne ?_ _ _
    rintro rfl
    exact h.not_other ht hhandle k' t' hk ht' hi

theorem owned_abort (h : Refines a w) (ht : w.timeouts k = some t) {i : ℕ} {task : SleepTask}
    (htask : (w.abort t.handle).tasks i = some task) :
    ∃ k' t', k' ≠ k ∧ w.timeouts k' = some t' ∧ t'.handle = some i := by
  have hold : w.tasks i = some task ∧ t.handle ≠ some i := by
    cases hhandle : t.handle with
    | none =>
      rw [hhandle] at htask
      exact ⟨htask, fun heq => by cases heq⟩
    | some j =>
      rw [hhandle] at htask
      change update w.tasks j none i = some task at htask
      rw [update_apply] at htask
      split_ifs at htask with hi
      exact ⟨htask, fun heq => hi (Option.some.inj heq).symm⟩
  obtain ⟨k', t', ht', hi⟩ := h.owned i task hold.1
  refine ⟨k', t', ?_, ht', hi⟩
  rintro rfl
  rw [ht] at ht'
  cases ht'
  exact hold.2 hi

theorem fresh_abort (h : Refines a w) (handle : Option ℕ) {i : ℕ} (hi : w.spawned ≤ i) :
    (w.abort handle).tasks i = none := by
  cases handle with
  | none => exact h.fresh i hi
  | some j =>
    change update w.tasks j none i = none
    rw [update_apply]
    split_ifs
    · rfl
    · exact h.fresh i hi

end Abort

theorem reset (h : Refines a w) (ht : w.timeouts k = some t) (msg : SystemMessage)
    (hnow : a'.now = a.now) (hcreated : a'.created = a.created) (hsent : a'.sent = a.sent)
    (ha : a'.timeouts = update a.timeouts k (some ⟨msg, some (msg, a.now + delay.nanos)⟩)) :
    Refines a' (w.reset k { t with msg } delay) := by
  have hone : ChangesOne w (w.reset k { t with msg } delay) k
      (some { t with msg, handle := some w.spawned }) := by
    refine ⟨by simp [TokioRuntime.reset], by simp [TokioRuntime.reset], ?_, ?_, ?_, ?_, ?_, ?_, ?_⟩
    · simpa [TokioRuntime.reset] using h.number_lt ht
    · simp [TokioRuntime.reset]
    · simp [TokioRuntime.reset]
    · intro i hi
      simp only [TokioRuntime.reset, TokioRuntime.abort_spawned] at hi ⊢
      rw [update_of_ne (by omega)]
      exact h.fresh_abort _ (by omega)
    · intro k' t' i hk ht' hi
      have hlt := h.spawned k' t' i ht' hi
      simp only [TokioRuntime.reset, TokioRuntime.abort_spawned]
      rw [update_of_ne hlt.ne]
      exact h.others_abort ht k' t' i hk ht' hi
    · intro i task htask
      simp only [TokioRuntime.reset, TokioRuntime.abort_spawned] at htask
      rw [update_apply] at htask
      split_ifs at htask with hi
      · exact .inr ⟨_, rfl, congrArg some hi.symm⟩
      · exact .inl (h.owned_abort ht htask)
    · rintro t' i ⟨⟩ ⟨⟩
      refine ⟨by simp [TokioRuntime.reset], fun k' t' hk ht' hi => ?_⟩
      exact (h.spawned k' t' _ ht' hi).ne rfl
  refine h.framed hone hnow ?_ ?_ ha (.some ⟨rfl, ?_⟩)
  · simpa [TokioRuntime.reset] using hcreated.trans h.created
  · simpa [TokioRuntime.reset] using hsent.trans h.sent
  · have htask : TokioTimeout.task (w.reset k { t with msg } delay).tasks
        { t with msg, handle := some w.spawned } = some ⟨msg, delay, none⟩ := by
      simp [TokioTimeout.task, TokioRuntime.reset]
    rw [htask]
    refine .some ⟨rfl, ?_⟩
    simp [SleepTask.due, TokioRuntime.reset, h.now]

theorem restart (h : Refines a w) (k : ℕ) (delay : Duration) :
    Refines (a.restart k delay) (w.restart k delay) := by
  unfold OneShots.restart TokioRuntime.restart
  rcases h.timeout_cases k with ⟨ho, ht⟩ | ⟨o, t, ho, ht, hshows⟩
  · rw [ho, ht]
    exact h
  · rw [ho, ht]
    refine h.reset ht t.msg rfl rfl rfl ?_
    rw [← hshows.msg]

/-- A change of the task that belongs to a timeout is a change of that timeout only. -/
theorem changesOne_keep (h : Refines a w) (ht : w.timeouts k = some t) {t' : TokioTimeout}
    (hhandle : t'.handle = t.handle) (hnow : w'.now = w.now) (hcreated : w'.created = w.created)
    (hspawned : w'.spawned = w.spawned) (htimeouts : w'.timeouts = update w.timeouts k (some t'))
    (htasks : ∀ i, t.handle ≠ some i → w'.tasks i = w.tasks i) : ChangesOne w w' k (some t') := by
  refine ⟨hnow, htimeouts, ?_, hcreated.ge, hspawned.ge, ?_, ?_, ?_, ?_⟩
  · rw [hcreated]
    exact h.number_lt ht
  · intro i hi
    rw [htasks i]
    · exact h.fresh i (hspawned ▸ hi)
    · intro hi'
      have hlt := h.spawned k t i ht hi'
      omega
  · intro k' t'' i hk ht'' hi
    exact htasks i fun hi' => h.not_other ht hi' k' t'' hk ht'' hi
  · intro i task htask
    by_cases hi : t.handle = some i
    · exact .inr ⟨t', rfl, hhandle.trans hi⟩
    · rw [htasks i hi] at htask
      obtain ⟨k', t'', ht'', hi''⟩ := h.owned i task htask
      refine .inl ⟨k', t'', ?_, ht'', hi''⟩
      rintro rfl
      rw [ht] at ht''
      cases ht''
      exact hi hi''
  · rintro t'' i ⟨⟩ hi
    rw [hhandle] at hi
    exact ⟨hspawned ▸ h.spawned k t i ht hi, h.not_other ht hi⟩

theorem restartWithMessage (h : Refines a w) (k : ℕ) (msg : SystemMessage) (delay : Duration) :
    Refines (a.restartWithMessage k msg delay) (w.restartWithMessage k msg delay) := by
  unfold OneShots.restartWithMessage TokioRuntime.restartWithMessage
  rcases h.timeout_cases k with ⟨ho, ht⟩ | ⟨o, t, ho, ht, hshows⟩
  · rw [ho, ht]
    exact h
  · rw [ho, ht]
    dsimp only
    split_ifs
    · -- The task of the timeout is left alone, so the timeout stays armed as it was.
      have hshows' : Shows w.now w.tasks { o with msg } { t with msg } := ⟨rfl, hshows.armed⟩
      have hone : ChangesOne w { w with
          timeouts := update w.timeouts k (some { t with msg })
          sent := w.sent ++ [msg] } k (some { t with msg }) :=
        h.changesOne_keep ht rfl rfl rfl rfl rfl fun _ _ => rfl
      refine h.framed hone rfl h.created ?_ rfl (.some hshows')
      rw [h.sent]
    · exact h.reset ht msg rfl rfl rfl rfl

theorem drop (h : Refines a w) (k : ℕ) : Refines (a.drop k) (w.drop k) := by
  unfold OneShots.drop TokioRuntime.drop
  rcases h.timeout_cases k with ⟨ho, ht⟩ | ⟨o, t, ho, ht, hshows⟩
  · rw [ht]
    have hsame : update a.timeouts k none = a.timeouts := by rw [← ho, update_eq_self]
    rw [hsame]
    exact h
  · rw [ht]
    have hone : ChangesOne w { w.abort t.handle with timeouts := update w.timeouts k none } k none := by
      refine ⟨by simp, rfl, ?_, ?_, ?_, ?_, ?_, ?_, ?_⟩
      · simpa using h.number_lt ht
      · simp
      · simp
      · intro i hi
        exact h.fresh_abort _ (by simpa using hi)
      · exact h.others_abort ht
      · intro i task htask
        exact .inl (h.owned_abort ht htask)
      · rintro t' i ⟨⟩
    refine h.framed hone rfl ?_ ?_ rfl .none
    · simpa using h.created
    · simpa using h.sent

theorem call (h : Refines a w) (c : TimerCall) : Refines (a.call c) (w.call c) := by
  cases c with
  | timeout msg => exact h.timeout msg
  | restart k delay => exact h.restart k delay
  | restartWithMessage k msg delay => exact h.restartWithMessage k msg delay
  | drop k => exact h.drop k

theorem elapse (h : Refines a w) (nanos : ℕ) :
    Refines { a with now := a.now + nanos } { w with now := w.now + nanos } := by
  refine ⟨congrArg (· + nanos) h.now, h.created, h.sent, fun k => ?_, h.owned, h.single, h.spawned,
    h.fresh, h.uncreated⟩
  rcases h.timeout_cases k with ⟨ho, ht⟩ | ⟨o, t, ho, ht, hshows⟩
  · rw [ho, ht]
    exact .none
  · rw [ho, ht]
    refine .some ⟨hshows.msg, ?_⟩
    have harmed := hshows.armed
    generalize o.armed = armed at harmed ⊢
    generalize t.task w.tasks = task at harmed ⊢
    cases harmed with
    | none => exact .none
    | @some armed task hdue =>
      refine .some ⟨hdue.1, hdue.2.trans ?_⟩
      unfold SleepTask.due
      cases task.deadline with
      | none => exact Nat.add_le_add_right (Nat.le_add_right _ _) _
      | some deadline => exact le_rfl

/-- A poll starts a sleep or does nothing, or the timeout that the task belongs to delivers. -/
theorem poll (h : Refines a w) (i : ℕ) :
    Refines a (w.poll i) ∨ ∃ k b, OneShots.Step a (.deliver k) b ∧ Refines b (w.poll i) := by
  unfold TokioRuntime.poll
  cases htask : w.tasks i with
  | none => exact .inl h
  | some task =>
    obtain ⟨k, t, ht, hi⟩ := h.owned i task htask
    obtain ⟨o, ho, hshows⟩ : ∃ o, a.timeouts k = some o ∧ Shows w.now w.tasks o t := by
      rcases h.timeout_cases k with ⟨-, hnone⟩ | ⟨o, t', ho, ht', hshows⟩
      · rw [hnone] at ht
        cases ht
      · rw [ht'] at ht
        cases ht
        exact ⟨o, ho, hshows⟩
    obtain ⟨⟨msg, earliest⟩, harmed, rfl, hdue⟩ : ∃ armed, o.armed = some armed ∧
        armed.1 = task.msg ∧ armed.2 ≤ task.due w.now := by
      have harmed := hshows.armed
      have hof : t.task w.tasks = some task := by
        rw [TokioTimeout.task, hi]
        exact htask
      rw [hof] at harmed
      generalize o.armed = armed at harmed
      cases harmed with
      | some hdue => exact ⟨_, rfl, hdue⟩
    have hkeep : update w.timeouts k (some t) = w.timeouts := by rw [← ht, update_eq_self]
    have hone : ∀ (x : Option SleepTask) (sent : List SystemMessage),
        ChangesOne w { w with tasks := update w.tasks i x, sent } k (some t) := by
      intro x sent
      refine h.changesOne_keep ht rfl rfl rfl rfl hkeep.symm fun j hj => update_of_ne ?_ _ _
      rintro rfl
      exact hj hi
    have hof : ∀ x, t.task (update w.tasks i x) = x := by
      intro x
      rw [TokioTimeout.task, hi]
      exact update_self i x w.tasks
    dsimp only
    cases hdeadline : task.deadline with
    | none =>
      refine .inl (h.framed (hone _ _) rfl h.created h.sent (update_eq_self k a.timeouts).symm ?_)
      rw [ho]
      refine .some ⟨hshows.msg, ?_⟩
      rw [hof, harmed]
      refine .some ⟨rfl, ?_⟩
      rw [SleepTask.due, hdeadline] at hdue
      exact hdue
    | some deadline =>
      dsimp only
      split_ifs with hended
      · refine .inr ⟨k, _, .deliver a k o task.msg earliest ho harmed ?_, ?_⟩
        · rw [SleepTask.due, hdeadline] at hdue
          rw [h.now]
          exact hdue.trans hended
        · refine h.framed (hone _ _) rfl h.created (congrArg (· ++ _) h.sent) rfl ?_
          refine .some ⟨hshows.msg, ?_⟩
          rw [hof]
          exact .none
      · exact .inl h

theorem new : Refines .new .new := by
  refine ⟨rfl, rfl, rfl, fun _ => .none, ?_, ?_, ?_, fun _ _ => rfl, fun _ _ => rfl⟩
  · rintro i task ⟨⟩
  · rintro k k' t t' i ⟨⟩
  · rintro k t i ⟨⟩

end Refines

/-- The calls of a port among the events of the runtime. -/
def RuntimeEvent.call? : RuntimeEvent → Option TimerCall
  | call c => some c
  | _ => none

def OneShotEvent.call? : OneShotEvent → Option TimerCall
  | call c => some c
  | _ => none

/-- The timeouts of the daemon are one-shots. For every run of the runtime, whatever the order in which
it polls its tasks, there is a run of one-shots with the same calls that has delivered the same
messages in the same order, and in which a timeout is armed exactly if it has a task that has not
ended. Every such task belongs to one timeout that is not dropped. -/
theorem tokio_timeouts_oneShot (events : List RuntimeEvent) :
    ∃ (shots : List OneShotEvent) (a : OneShots),
      OneShots.Run .new shots a ∧
      shots.filterMap OneShotEvent.call? = events.filterMap RuntimeEvent.call? ∧
      Refines a (TokioRuntime.new.run events) := by
  induction events using List.reverseRecOn with
  | nil => exact ⟨[], .new, .start, rfl, .new⟩
  | append_singleton events event ih =>
    obtain ⟨shots, a, hrun, hcalls, h⟩ := ih
    rw [TokioRuntime.run, List.foldl_append]
    change ∃ shots a, _ ∧ _ ∧ Refines a ((TokioRuntime.new.run events).step event)
    cases event with
    | call c =>
      refine ⟨shots ++ [.call c], a.call c, hrun.next (.call a c), ?_, h.call c⟩
      rw [List.filterMap_append, List.filterMap_append, hcalls]
      rfl
    | elapse nanos =>
      refine ⟨shots ++ [.elapse nanos], _, hrun.next (.elapse a nanos), ?_, h.elapse nanos⟩
      rw [List.filterMap_append, List.filterMap_append, hcalls]
      rfl
    | poll task =>
      rw [List.filterMap_append]
      rcases h.poll task with hsame | ⟨k, b, hstep, hdelivered⟩
      · exact ⟨shots, a, hrun, hcalls.trans (List.append_nil _).symm, hsame⟩
      · refine ⟨shots ++ [.deliver k], b, hrun.next hstep, ?_, hdelivered⟩
        rw [List.filterMap_append, hcalls]
        rfl

end Rptp
