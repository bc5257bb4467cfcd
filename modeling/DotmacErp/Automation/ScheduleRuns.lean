import DotmacErp.Automation.Recurring

/-!
# The schedule over whole runs

A template that is created with a start date not in the past, with a period of whole months, no
schedule configuration, and that is never paused. In every state it reaches, its successful
generations are scheduled as by stepping from the days they ran on (`OnTrack`, by `onTrack_run`):
the first one for the start date, each later one for a period after the day of the one before. No
more of them than the limit are made, unless that is zero, and none for a date after the end.

So the schedule is what it should be, every occurrence counted from the start date, exactly where
every successful generation but the last ran on its occurrence (`keepsSchedule_iff`).
-/

namespace DotmacErp

open Calendar Relational Session

def RecurringFrequency.months : RecurringFrequency → Option ℕ
  | monthly => some 1
  | quarterly => some 3
  | semiAnnually => some 6
  | annually => some 12
  | _ => none

namespace RecurringService

/-- The successful generations of a template, in order. -/
def successes (s : RecurringStore) (k : UUID) : List RecurringLog :=
  (s.logs.select fun l => l.templateId = k ∧ l.status = .success).map Stored.row

def scheduledDates (s : RecurringStore) (k : UUID) : List Date :=
  (successes s k).map RecurringLog.scheduledDate

def runDays (s : RecurringStore) (k : UUID) : List Date :=
  (successes s k).map RecurringLog.generatedAt

/-- The schedule of a template: the occurrences from the start date on, in order, none skipped and
none repeated, no more of them than the limit and none after the end. -/
structure KeepsSchedule (s : RecurringStore) (k : UUID) (input : RecurringTemplateInput)
    (m : ℕ) : Prop where
  occurrences : scheduledDates s k =
    (List.range (scheduledDates s k).length).map (input.startDate.occurrence m)
  limited : ∀ limit ∈ input.occurrencesLimit, (scheduledDates s k).length ≤ limit.toNat
  ended : ∀ endDate ∈ input.endDate, ∀ d ∈ scheduledDates s k, d ≤ endDate

/-- The template is not paused. -/
def NeverPauses (k : UUID) (_ : RecurringStore) : RecurringOp → Prop
  | .pause templateId => templateId ≠ k
  | _ => True

structure OnTrack (s : RecurringStore) (k : UUID) (input : RecurringTemplateInput) (m : ℕ)
    (t : RecurringTemplate) : Prop where
  stored : s.templates.get? k = some t
  frequency : t.frequency = input.frequency
  config : t.scheduleConfig = {}
  endDate : t.endDate = input.endDate
  limit : t.occurrencesLimit = input.occurrencesLimit
  unpaused : t.status ≠ .paused
  counted : t.occurrencesCount = (successes s k).length
  next : t.nextRunDate = some (Date.nextFrom m input.startDate (runDays s k))
  scheduled : scheduledDates s k = Date.scheduledFrom m input.startDate (runDays s k)
  limited : ∀ limit ∈ input.occurrencesLimit, limit ≠ 0 → (successes s k).length ≤ limit.toNat
  ended : ∀ endDate ∈ input.endDate, ∀ d ∈ scheduledDates s k, d ≤ endDate

def LogsFiled (s : RecurringStore) : Prop := ∀ i l, s.logs.get? i = some l →
  l.templateId < s.templates.next

/-! ### One attempt -/

section Attempt

variable {today : Date} {generate : Generation} {k : UUID} {m : ℕ} {s s' : RecurringStore}
  {t t' : RecurringTemplate} {log : RecurringLog} {input : RecurringTemplateInput}

theorem calculateNextRunDate_months {frequency : RecurringFrequency}
    (h : frequency.months = some m) (d : Date) :
    calculateNextRunDate d frequency {} = d.addMonths m := by
  cases frequency with
  | daily => exact absurd h (by simp [RecurringFrequency.months])
  | weekly => exact absurd h (by simp [RecurringFrequency.months])
  | biweekly => exact absurd h (by simp [RecurringFrequency.months])
  | monthly =>
    obtain rfl := Option.some.inj h
    rfl
  | quarterly =>
    obtain rfl := Option.some.inj h
    rfl
  | semiAnnually =>
    obtain rfl := Option.some.inj h
    rfl
  | annually =>
    obtain rfl := Option.some.inj h
    rfl

/-- What an attempt does: it succeeds and advances the template, which is active, not past its end
and below its limit, or it is no success and changes the status at most. -/
theorem generateNext_cases (h : generateNext today generate k t = .ok (t', log)) :
    log.templateId = k ∧
      ((log.status = .success ∧ log.generatedAt = today ∧
          log.scheduledDate = t.nextRunDate.getD today ∧
          (∀ endDate ∈ t.endDate, today ≤ endDate) ∧
          (∀ limit ∈ activeLimit t, t.occurrencesCount < limit) ∧
          ∃ result, t' = advanced today result t) ∨
        (log.status ≠ .success ∧ ∃ status ≠ RecurringStatus.paused,
          (t' = t ∨ t' = { t with status }))) := by
  rw [generateNext] at h
  split_ifs at h with hactive hend hlimit
  · obtain ⟨rfl, rfl⟩ := Prod.mk.inj (Except.ok.inj h)
    exact ⟨rfl, .inr ⟨by simp [skippedLog], .active, by simp, .inl rfl⟩⟩
  · obtain ⟨rfl, rfl⟩ := Prod.mk.inj (Except.ok.inj h)
    exact ⟨rfl, .inr ⟨by simp [skippedLog], .expired, by simp, .inr rfl⟩⟩
  · obtain ⟨rfl, rfl⟩ := Prod.mk.inj (Except.ok.inj h)
    exact ⟨rfl, .inr ⟨by simp [skippedLog], .completed, by simp, .inr rfl⟩⟩
  · cases hresult : generate k t with
    | error message =>
      rw [hresult] at h
      exact absurd h (by simp [Except.map])
    | ok result =>
      rw [hresult] at h
      obtain ⟨rfl, rfl⟩ := Prod.mk.inj (Except.ok.inj h)
      refine ⟨rfl, ?_⟩
      by_cases hsuccess : result.success = true
      · refine .inl ⟨by simp [resultLog, hsuccess], rfl, rfl, fun endDate hmem => ?_,
          fun limit hmem => ?_, result, if_pos hsuccess⟩
        · exact not_lt.mp fun hlt => hend ⟨endDate, hmem, hlt⟩
        · exact not_le.mp fun hle => hlimit ⟨limit, hmem, hle⟩
      · exact .inr ⟨by simp [resultLog, hsuccess], .active, by simp, .inl (if_neg hsuccess)⟩

theorem successes_insert (hlogs : s'.logs = s.logs.insert log) (k : UUID) :
    successes s' k = successes s k ++
      if log.templateId = k ∧ log.status = .success then [log] else [] := by
  rw [successes, hlogs, Table.select_insert, List.map_append, successes]
  congr 1
  by_cases hlog : log.templateId = k ∧ log.status = .success
  · rw [if_pos hlog, if_pos (decide_eq_true hlog)]
    rfl
  · rw [if_neg hlog, if_neg (by simpa using hlog)]
    rfl

theorem OnTrack.restatus (h : OnTrack s k input m t) {status : RecurringStatus}
    (hstatus : status ≠ .paused) (hstored : s'.templates.get? k = some { t with status })
    (hsuccesses : successes s' k = successes s k) : OnTrack s' k input m { t with status } := by
  have hdates : scheduledDates s' k = scheduledDates s k := congrArg _ hsuccesses
  have hdays : runDays s' k = runDays s k := congrArg _ hsuccesses
  refine ⟨hstored, h.frequency, h.config, h.endDate, h.limit, hstatus, ?_, ?_, ?_, ?_, ?_⟩
  · rw [hsuccesses]
    exact h.counted
  · rw [hdays]
    exact h.next
  · rw [hdates, hdays]
    exact h.scheduled
  · rw [hsuccesses]
    exact h.limited
  · rw [hdates]
    exact h.ended

theorem OnTrack.congr (h : OnTrack s k input m t) (hstored : s'.templates.get? k = some t)
    (hsuccesses : successes s' k = successes s k) : OnTrack s' k input m t :=
  h.restatus h.unpaused hstored hsuccesses

/-- **A success** keeps a due template on track. -/
theorem OnTrack.advance (h : OnTrack s k input m t) (hmonths : input.frequency.months = some m)
    (hdue : ∃ d ∈ t.nextRunDate, d ≤ today) (hid : log.templateId = k)
    (hstatus : log.status = .success) (hday : log.generatedAt = today)
    (hdate : log.scheduledDate = t.nextRunDate.getD today)
    (hend : ∀ endDate ∈ t.endDate, today ≤ endDate)
    (hlimit : ∀ limit ∈ activeLimit t, t.occurrencesCount < limit) (result : GenerationResult)
    (hactive : t.status = .active) (hstored : s'.templates.get? k = some (advanced today result t))
    (hlogs : s'.logs = s.logs.insert log) :
    OnTrack s' k input m (advanced today result t) := by
  have hsuccesses : successes s' k = successes s k ++ [log] := by
    rw [successes_insert hlogs, if_pos ⟨hid, hstatus⟩]
  have hdates : scheduledDates s' k = scheduledDates s k ++ [log.scheduledDate] := by
    rw [scheduledDates, hsuccesses, List.map_append, List.map_singleton, scheduledDates]
  have hdays : runDays s' k = runDays s k ++ [today] := by
    rw [runDays, hsuccesses, List.map_append, List.map_singleton, hday, runDays]
  have hscheduled : log.scheduledDate = Date.nextFrom m input.startDate (runDays s k) := by
    rw [hdate, h.next, Option.getD_some]
  refine ⟨hstored, h.frequency, h.config, h.endDate, h.limit, ?_, ?_, ?_, ?_, ?_, ?_⟩
  · rw [advanced, hactive]
    simp
  · rw [advanced, hsuccesses, List.length_append, List.length_singleton, h.counted]
    push_cast
    rfl
  · rw [advanced, hdays, Date.nextFrom_concat, h.frequency, h.config,
      calculateNextRunDate_months hmonths]
  · rw [hdates, hdays, Date.scheduledFrom_concat, h.scheduled, hscheduled]
  · intro limit hmem hne
    have hless := hlimit limit (by
      rw [activeLimit, h.limit, Option.mem_def.mp hmem, Option.filter_some, if_pos (by simpa)]
      rfl)
    rw [h.counted] at hless
    rw [hsuccesses, List.length_append, List.length_singleton]
    omega
  · intro endDate hmem d hd
    rw [hdates, List.mem_append, List.mem_singleton] at hd
    rcases hd with hd | rfl
    · exact h.ended endDate hmem d hd
    · -- scheduled for a date that has come, on a day that is not past the end
      obtain ⟨due, hdueMem, hle⟩ := hdue
      rw [hdate, Option.mem_def.mp hdueMem, Option.getD_some]
      exact hle.trans (hend endDate (h.endDate ▸ hmem))

variable {due : Stored RecurringTemplate}

/-- **One attempt** on a due template keeps every template on track. -/
theorem OnTrack.runTemplate (h : OnTrack s k input m t) (hmonths : input.frequency.months = some m)
    (generate : Generation) (hstored : s.templates.get? due.id = some due.row)
    (hactive : due.row.status = .active) (hdue : ∃ d ∈ due.row.nextRunDate, d ≤ today) :
    ∃ t', OnTrack (runTemplate today generate s due) k input m t' := by
  rw [RecurringService.runTemplate]
  cases hnext : generateNext today generate due.id due.row with
  | error message =>
    refine ⟨t, h.congr h.stored ?_⟩
    rw [successes_insert rfl, if_neg (by simp), List.append_nil]
  | ok written =>
    obtain ⟨template, log⟩ := written
    obtain ⟨hid, hcases⟩ := generateNext_cases hnext
    by_cases hk : due.id = k
    · subst hk
      have hrow : due.row = t := Option.some.inj (hstored.symm.trans h.stored)
      rw [hrow] at hcases hactive hdue
      have hwritten : (s.templates.modify due.id fun _ => template).get? due.id =
          some template := by
        rw [Table.get?_modify_self, h.stored]
        rfl
      rcases hcases with ⟨hstatus, hday, hdate, hend, hlimit, result, rfl⟩ |
        ⟨hstatus, status, hunpaused, hsame⟩
      · exact ⟨_, h.advance hmonths hdue hid hstatus hday hdate hend hlimit result hactive hwritten
          rfl⟩
      · have hkept : successes ⟨s.templates.modify due.id fun _ => template,
            s.logs.insert log⟩ due.id = successes s due.id := by
          rw [successes_insert rfl, if_neg fun hlog => hstatus hlog.2, List.append_nil]
        rcases hsame with rfl | rfl
        · exact ⟨_, h.congr hwritten hkept⟩
        · exact ⟨_, h.restatus hunpaused hwritten hkept⟩
    · refine ⟨t, h.congr ?_ ?_⟩
      · exact (Table.get?_modify_of_ne (Ne.symm hk) _).trans h.stored
      · rw [successes_insert rfl, if_neg fun hlog => hk (hid.symm.trans hlog.1), List.append_nil]

theorem get?_runTemplate {i : UUID} (hi : i ≠ due.id) :
    (runTemplate today generate s due).templates.get? i = s.templates.get? i := by
  rw [runTemplate]
  cases generateNext today generate due.id due.row with
  | error message => rfl
  | ok written => exact Table.get?_modify_of_ne hi _

/-- **A run of due templates** keeps every template on track. -/
theorem OnTrack.foldl (hmonths : input.frequency.months = some m)
    {dues : List (Stored RecurringTemplate)} (hnodup : (dues.map Stored.id).Nodup)
    (hdues : ∀ due ∈ dues, s.templates.get? due.id = some due.row ∧
      due.row.status = .active ∧ ∃ d ∈ due.row.nextRunDate, d ≤ today) (h : OnTrack s k input m t) :
    ∃ t', OnTrack (dues.foldl (RecurringService.runTemplate today generate) s) k input m t' := by
  induction dues generalizing s t with
  | nil => exact ⟨t, h⟩
  | cons due dues ih =>
    rw [List.map_cons, List.nodup_cons] at hnodup
    obtain ⟨hstored, hactive, hdue⟩ := hdues due List.mem_cons_self
    obtain ⟨t', ht'⟩ := h.runTemplate hmonths generate hstored hactive hdue
    refine ih hnodup.2 (fun other hother => ?_) ht'
    obtain ⟨hother', hstatus⟩ := hdues other (List.mem_cons_of_mem _ hother)
    refine ⟨(get?_runTemplate fun heq => hnodup.1 ?_).trans hother', hstatus⟩
    rw [← heq]
    exact List.mem_map.mpr ⟨other, hother, rfl⟩

theorem mem_getDueTemplates (h : due ∈ getDueTemplates s today) :
    s.templates.get? due.id = some due.row ∧ due.row.status = .active ∧
      ∃ d ∈ due.row.nextRunDate, d ≤ today := by
  obtain ⟨hget, hselected⟩ := Table.mem_select.mp h
  exact ⟨hget, of_decide_eq_true hselected⟩

end Attempt

/-! ### Whole runs -/

section Runs

variable {today : Date} {generate : Generation} {k : UUID} {m : ℕ} {s s' s₀ s₁ : RecurringStore}
  {t : RecurringTemplate} {input : RecurringTemplateInput} {op : RecurringOp} {org : UUID}

theorem createTemplate_eq_ok (h : createTemplate today org input s = .ok k s') :
    k = s.templates.next ∧ s'.logs = s.logs ∧ ∃ t : RecurringTemplate,
      s'.templates = s.templates.insert t ∧ t.frequency = input.frequency ∧
      t.scheduleConfig = input.scheduleConfig.getD {} ∧ t.endDate = input.endDate ∧
      t.occurrencesLimit = input.occurrencesLimit ∧ t.status = .active ∧ t.occurrencesCount = 0 ∧
      (today ≤ input.startDate → t.nextRunDate = some input.startDate) := by
  rw [createTemplate, get_bind, refuse_bind] at h
  obtain ⟨_, _, hset, hpure⟩ := bind_eq_ok.mp h.2
  obtain ⟨rfl, rfl⟩ := pure_eq_ok.mp hpure
  obtain rfl := set_eq_ok.mp hset
  exact ⟨rfl, rfl, _, rfl, rfl, rfl, rfl, rfl, rfl, rfl, fun hstart => congrArg some
    (if_neg (not_lt.mpr hstart))⟩

variable {i : UUID}

theorem loadTemplate_bind {f : RecurringTemplate → RecurringSession PUnit} :
    (loadTemplate i >>= f) s = .ok ⟨⟩ s' ↔
      ∃ t, s.templates.get? i = some t ∧ f t s = .ok ⟨⟩ s' := by
  rw [loadTemplate, bind_eq_ok]
  constructor
  · rintro ⟨t, _, hload, hf⟩
    rw [get_bind, orRaise_eq_ok] at hload
    exact ⟨t, hload.1, hload.2 ▸ hf⟩
  · rintro ⟨t, hget, hf⟩
    exact ⟨t, s, get_bind.mpr (orRaise_eq_ok.mpr ⟨hget, rfl⟩), hf⟩

theorem pause_eq_ok (h : RecurringService.pause i s = .ok ⟨⟩ s') :
    ∃ f, s' = { s with templates := s.templates.modify i f } := by
  obtain ⟨t, -, hpause⟩ := loadTemplate_bind.mp h
  exact ⟨_, modify_eq_ok.mp (refuse_bind.mp hpause).2⟩

theorem resume_eq_ok (h : RecurringService.resume today i s = .ok ⟨⟩ s') :
    ∃ t f, s.templates.get? i = some t ∧ t.status = .paused ∧
      s' = { s with templates := s.templates.modify i f } := by
  obtain ⟨t, hget, hresume⟩ := loadTemplate_bind.mp h
  obtain ⟨hpaused, hmodify⟩ := refuse_bind.mp hresume
  exact ⟨t, _, hget, not_not.mp hpaused, modify_eq_ok.mp hmodify⟩

theorem cancel_eq_ok (h : RecurringService.cancel i s = .ok ⟨⟩ s') :
    s' = { s with
      templates := s.templates.modify i fun t => { t with status := .cancelled } } := by
  obtain ⟨t, -, hcancel⟩ := loadTemplate_bind.mp h
  exact modify_eq_ok.mp hcancel

theorem successes_congr (h : s'.logs = s.logs) (k : UUID) : successes s' k = successes s k := by
  rw [successes, h, successes]

theorem OnTrack.modify (h : OnTrack s k input m t) (hi : i ≠ k)
    (f : RecurringTemplate → RecurringTemplate) :
    OnTrack { s with templates := s.templates.modify i f } k input m t :=
  h.congr ((Table.get?_modify_of_ne hi.symm f).trans h.stored) (successes_congr rfl k)

/-- **Every call** that does not pause a template keeps it on track. -/
theorem OnTrack.apply (h : OnTrack s k input m t) (hmonths : input.frequency.months = some m)
    (hnever : NeverPauses k s op) : ∃ t', OnTrack (op.apply s) k input m t' := by
  cases op with
  | create today org inputData =>
    refine commit_induction (P := fun s' => ∃ t', OnTrack s' k input m t') ⟨t, h⟩
      fun i s' hcreate => ⟨t, ?_⟩
    obtain ⟨-, hlogs, template, htemplates, -⟩ := createTemplate_eq_ok hcreate
    refine h.congr ?_ (successes_congr hlogs k)
    rw [htemplates]
    exact Table.get?_insert_of_some h.stored _
  | run today generate =>
    exact h.foldl hmonths (Table.nodup_ids_select _ _) fun due hdue => mem_getDueTemplates hdue
  | pause i =>
    refine commit_induction (P := fun s' => ∃ t', OnTrack s' k input m t') ⟨t, h⟩
      fun _ s' hpause => ⟨t, ?_⟩
    obtain ⟨f, rfl⟩ := pause_eq_ok hpause
    exact h.modify hnever f
  | resume today i =>
    refine commit_induction (P := fun s' => ∃ t', OnTrack s' k input m t') ⟨t, h⟩
      fun _ s' hresume => ⟨t, ?_⟩
    obtain ⟨template, f, hget, hpaused, rfl⟩ := resume_eq_ok hresume
    refine h.modify (fun heq => h.unpaused ?_) f
    -- only a paused template is resumed
    obtain rfl : template = t := Option.some.inj (hget.symm.trans (heq ▸ h.stored))
    exact hpaused
  | cancel i =>
    refine commit_induction (P := fun s' => ∃ t', OnTrack s' k input m t') ⟨t, h⟩
      fun _ s' hcancel => ?_
    obtain rfl := cancel_eq_ok hcancel
    by_cases hi : i = k
    · subst hi
      refine ⟨_, h.restatus (by simp : RecurringStatus.cancelled ≠ .paused) ?_
        (successes_congr rfl i)⟩
      rw [Table.get?_modify_self, h.stored]
      rfl
    · exact ⟨t, h.modify hi _⟩

theorem next_runTemplate (due : Stored RecurringTemplate) :
    (runTemplate today generate s due).templates.next = s.templates.next := by
  rw [runTemplate]
  cases generateNext today generate due.id due.row with
  | error message => rfl
  | ok written => rfl

theorem LogsFiled.runTemplate (h : LogsFiled s) {due : Stored RecurringTemplate}
    (hdue : due.id < s.templates.next) : LogsFiled (runTemplate today generate s due) := by
  intro i l hl
  rw [next_runTemplate]
  rw [RecurringService.runTemplate] at hl
  cases hwritten : generateNext today generate due.id due.row with
  | error message =>
    rw [hwritten] at hl
    rcases Table.get?_insert_cases hl with hold | ⟨-, rfl⟩
    · exact h i l hold
    · exact hdue
  | ok written =>
    rw [hwritten] at hl
    rcases Table.get?_insert_cases hl with hold | ⟨-, hlog⟩
    · exact h i l hold
    · rw [hlog, (generateNext_cases hwritten).1]
      exact hdue

theorem LogsFiled.foldl {dues : List (Stored RecurringTemplate)} (h : LogsFiled s)
    (hdues : ∀ due ∈ dues, due.id < s.templates.next) :
    LogsFiled (dues.foldl (RecurringService.runTemplate today generate) s) := by
  induction dues generalizing s with
  | nil => exact h
  | cons due dues ih =>
    refine ih (h.runTemplate (hdues due List.mem_cons_self)) fun other hother => ?_
    rw [next_runTemplate]
    exact hdues other (List.mem_cons_of_mem _ hother)

theorem LogsFiled.apply (h : LogsFiled s) (op : RecurringOp) : LogsFiled (op.apply s) := by
  have hmodify : ∀ i (f : RecurringTemplate → RecurringTemplate),
      LogsFiled { s with templates := s.templates.modify i f } := fun _ _ => h
  cases op with
  | create today org inputData =>
    refine commit_induction (P := LogsFiled) h fun i s' hcreate => ?_
    obtain ⟨-, hlogs, template, htemplates, -⟩ := createTemplate_eq_ok hcreate
    intro j l hl
    rw [hlogs] at hl
    rw [htemplates, Table.next_insert]
    exact (h j l hl).trans (Nat.lt_succ_self _)
  | run today generate =>
    exact h.foldl fun due hdue => Table.lt_next (mem_getDueTemplates hdue).1
  | pause i =>
    refine commit_induction (P := LogsFiled) h fun _ s' hpause => ?_
    obtain ⟨f, rfl⟩ := pause_eq_ok hpause
    exact hmodify i f
  | resume today i =>
    refine commit_induction (P := LogsFiled) h fun _ s' hresume => ?_
    obtain ⟨_, f, -, -, rfl⟩ := resume_eq_ok hresume
    exact hmodify i f
  | cancel i =>
    refine commit_induction (P := LogsFiled) h fun _ s' hcancel => ?_
    obtain rfl := cancel_eq_ok hcancel
    exact hmodify i _

theorem LogsFiled.of_reachable (h : recurringSystem.Reachable s) : LogsFiled s := by
  refine h.invariant (P := LogsFiled) (fun s hs i l hl => ?_) fun s op s' hs hstep => ?_
  · rw [hs] at hl
    exact absurd hl (by simp)
  · rw [hstep]
    exact hs.apply op

/-- **A new template** that starts today or later, without a configuration, is on track. -/
theorem onTrack_create (hlogs : LogsFiled s₀) (h : createTemplate today org input s₀ = .ok k s₁)
    (hstart : today ≤ input.startDate) (hconfig : input.scheduleConfig = none) (m : ℕ) :
    ∃ t, OnTrack s₁ k input m t := by
  obtain ⟨rfl, hsame, t, htemplates, hfrequency, hset, hend, hlimit, hactive, hcount, hnext⟩ :=
    createTemplate_eq_ok h
  -- no log is of a template that is yet to come
  have hnone : successes s₁ s₀.templates.next = [] := by
    rw [successes_congr hsame, successes, List.map_eq_nil_iff, List.eq_nil_iff_forall_not_mem]
    intro l hl
    obtain ⟨hget, hselected⟩ := Table.mem_select.mp hl
    have hbelow := hlogs l.id l.row hget
    exact absurd (of_decide_eq_true hselected).1 hbelow.ne
  have hdates : scheduledDates s₁ s₀.templates.next = [] := by rw [scheduledDates, hnone]; rfl
  have hdays : runDays s₁ s₀.templates.next = [] := by rw [runDays, hnone]; rfl
  refine ⟨t, ?_, hfrequency, ?_, hend, hlimit, ?_, ?_, ?_, ?_, ?_, ?_⟩
  · rw [htemplates]
    exact Table.get?_insert_self _ _
  · rw [hset, hconfig]
    rfl
  · rw [hactive]
    simp
  · rw [hcount, hnone]
    rfl
  · rw [hnext hstart, hdays]
    rfl
  · rw [hdates, hdays]
    rfl
  · intro limit _ _
    rw [hnone]
    exact Nat.zero_le _
  · intro endDate _ d hd
    rw [hdates] at hd
    exact absurd hd List.not_mem_nil

/-- **Every run** that does not pause a template keeps it on track. -/
theorem onTrack_run (hmonths : input.frequency.months = some m)
    (hrun : recurringSystem.RunWithin (NeverPauses k) s₁ s)
    (h : ∃ t, OnTrack s₁ k input m t) : ∃ t, OnTrack s k input m t := by
  refine hrun.preserves (P := fun s => ∃ t, OnTrack s k input m t) ?_ h
  rintro s op s' ⟨t, ht⟩ hnever hstep
  rw [hstep]
  exact ht.apply hmonths hnever

/-- **The schedule is kept** if and only if every successful generation but the last ran on its
occurrence, and no limit of zero was read as no limit. -/
theorem keepsSchedule_iff (hs : recurringSystem.Reachable s₀)
    (hcreate : createTemplate today org input s₀ = .ok k s₁) (hstart : today ≤ input.startDate)
    (hconfig : input.scheduleConfig = none) (hmonths : input.frequency.months = some m)
    (hrun : recurringSystem.RunWithin (NeverPauses k) s₁ s) :
    KeepsSchedule s k input m ↔
      (∀ i run, i + 1 < (runDays s k).length → (runDays s k)[i]? = some run →
        Date.OnOccurrence input.startDate m i run) ∧
      (input.occurrencesLimit = some 0 → runDays s k = []) := by
  obtain ⟨t, ht⟩ := onTrack_run hmonths hrun
    (onTrack_create (LogsFiled.of_reachable hs) hcreate hstart hconfig m)
  have hdates : (scheduledDates s k).length = (successes s k).length := List.length_map _
  have hdays : (runDays s k).length = (successes s k).length := List.length_map _
  have hcounts : (scheduledDates s k).length = (runDays s k).length := hdates.trans hdays.symm
  constructor
  · intro hkeeps
    refine ⟨Date.scheduledFrom_eq_iff.mp ?_, fun hzero => ?_⟩
    · rw [← hcounts, ← ht.scheduled]
      exact hkeeps.occurrences
    · have hle := hkeeps.limited 0 (Option.mem_def.mpr hzero)
      rw [hcounts] at hle
      exact List.length_eq_zero_iff.mp (Nat.le_zero.mp hle)
  · rintro ⟨hoccurrence, hzero⟩
    refine ⟨?_, fun limit hlimit => ?_, ht.ended⟩
    · rw [hcounts, ht.scheduled]
      exact Date.scheduledFrom_eq_iff.mpr hoccurrence
    · by_cases hlimitZero : limit = 0
      · subst hlimitZero
        rw [hcounts, hzero hlimit]
        exact Nat.zero_le _
      · rw [hdates]
        exact ht.limited limit hlimit hlimitZero

def monthlyFrom (startDate : Date) : RecurringTemplateInput where
  templateName := "Rent"
  entityType := .journal
  frequency := .monthly
  startDate := startDate

def journalGenerated : Generation := fun _ _ => .ok
  { success := true
    entityType := some "JOURNAL"
    entityId := some 0
    entityNumber := some "JE-0001" }

def monthlyCreated (startDate : Date) : RecurringStore :=
  commit (createTemplate startDate 1 (monthlyFrom startDate)) {}

def afterRuns (s : RecurringStore) (days : List Date) : RecurringStore :=
  System.after (fun s op => RecurringOp.apply op s) s
    (days.map fun day => .run day journalGenerated)

theorem runWithin_afterRuns (k : UUID) (s : RecurringStore) (days : List Date) :
    recurringSystem.RunWithin (NeverPauses k) s (afterRuns s days) := by
  refine System.runWithin_after ?_
  induction days generalizing s with
  | nil => exact trivial
  | cons day days ih => exact ⟨trivial, ih _⟩

theorem keepsSchedule_iff_sample :
    KeepsSchedule (afterRuns (monthlyCreated ⟨2026, 1, 15, by decide⟩)
        [⟨2026, 1, 15, by decide⟩, ⟨2026, 2, 15, by decide⟩, ⟨2026, 3, 20, by decide⟩])
      0 (monthlyFrom ⟨2026, 1, 15, by decide⟩) 1 := by
  refine (@keepsSchedule_iff ⟨2026, 1, 15, by decide⟩ 0 1 _ {} _
    (monthlyFrom ⟨2026, 1, 15, by decide⟩) 1 ⟨{}, rfl, Relation.ReflTransGen.refl⟩ rfl le_rfl rfl
    rfl (runWithin_afterRuns 0 (monthlyCreated ⟨2026, 1, 15, by decide⟩)
      [⟨2026, 1, 15, by decide⟩, ⟨2026, 2, 15, by decide⟩, ⟨2026, 3, 20, by decide⟩])).mpr
    ⟨fun i run hi hrun => ?_, fun h => absurd h (by decide)⟩
  have hdays : runDays (afterRuns (monthlyCreated ⟨2026, 1, 15, by decide⟩)
      [⟨2026, 1, 15, by decide⟩, ⟨2026, 2, 15, by decide⟩, ⟨2026, 3, 20, by decide⟩]) 0 =
      [⟨2026, 1, 15, by decide⟩, ⟨2026, 2, 15, by decide⟩, ⟨2026, 3, 20, by decide⟩] := by
    decide +kernel
  rw [hdays] at hi hrun
  obtain _ | _ | i := i
  · obtain rfl := Option.some.inj hrun
    decide
  · obtain rfl := Option.some.inj hrun
    decide
  · exact absurd hi (by simp)

/-- A journal that starts on 31 January is generated on 31 January, on 28 February and on
28 March, not on 31 March. -/
theorem short_month_shifts :
    ¬ ∀ (today : Date) (k : UUID) (m : ℕ) (s s₀ s₁ : RecurringStore)
      (input : RecurringTemplateInput) (org : UUID), recurringSystem.Reachable s₀ →
      createTemplate today org input s₀ = .ok k s₁ → today ≤ input.startDate →
      input.scheduleConfig = none → input.frequency.months = some m →
      recurringSystem.RunWithin (NeverPauses k) s₁ s → KeepsSchedule s k input m := by
  intro h
  have hkeeps := h ⟨2026, 1, 31, by decide⟩ 0 1
    (afterRuns (monthlyCreated ⟨2026, 1, 31, by decide⟩)
      [⟨2026, 1, 31, by decide⟩, ⟨2026, 2, 28, by decide⟩, ⟨2026, 3, 28, by decide⟩])
    {} _ (monthlyFrom ⟨2026, 1, 31, by decide⟩) 1 ⟨{}, rfl, Relation.ReflTransGen.refl⟩ rfl le_rfl
    rfl rfl (runWithin_afterRuns 0 _ _)
  have hdates := hkeeps.occurrences
  revert hdates
  decide +kernel

end Runs

end RecurringService

end DotmacErp
