import Mathlib
import RaceArchive.Sync.Alerts
import RaceArchive.Proofs.Tables

/-!
# Alert episodes

The alerter keeps two memories: when each alert last fired, and which jobs have an open failing
episode. They say exactly what the log of sent notifications says (`Alerter.Remembers`): the
instant of the failing alert that opened a job's episode, none once it recovered, and the instant
of its last stale alert, both read off the log by `lastOpen`. From this the laws of the alerts
follow over every interleaving of recorded runs and evaluations (`alerts_follow_episodes`):

* failing alerts of one episode of a job are at least the failing cooldown apart, and any two
  stale alerts of a job at least the stale cooldown (`Spaced`);
* every recovery closes an episode that a failing alert opened (`ClosesAfterOpen`);
* an evaluation calls a job failing only at or over the threshold and recovered only at a streak
  of zero, and after a recovery the first streak at the threshold fires at once (`EpisodeTurn`).

Each step of the failing pass and of the stale pass keeps the memory and the laws
(`Alerter.Sound.checkFailing`, `Alerter.Sound.checkStale`), hence so do an evaluation and a whole
run (`Watch.Sound.run`); what one evaluation sends about a job comes from that job's own entry.
-/

namespace RaceArchive

namespace Notify

/-- Whether a notification is of a kind and about a job. -/
def Notification.about (kind job : String) (n : Notification) : Bool :=
  n.kind == kind && n.subject == job

end Notify

namespace Sync

open Notify

/-! ## What the log says -/

section Log

variable {opens closes : Notification → Bool} {gap : Int} {log : List Notification}
  {x y : Notification}

/-- The instant of the last notification that `opens` accepts, unless one that `closes` accepts
came after it. -/
def lastOpen (opens closes : Notification → Bool) (log : List Notification) : Option Int :=
  log.foldl (fun acc n => if opens n then some n.timestamp else if closes n then none else acc) none

theorem lastOpen_concat (opens closes : Notification → Bool) (log : List Notification)
    (n : Notification) :
    lastOpen opens closes (log ++ [n]) =
      if opens n then some n.timestamp else if closes n then none else lastOpen opens closes log := by
  simp [lastOpen, List.foldl_append]

theorem lastOpen_append_of_unrelated {more : List Notification}
    (h : ∀ n ∈ more, opens n = false ∧ closes n = false) :
    lastOpen opens closes (log ++ more) = lastOpen opens closes log := by
  induction more using List.reverseRecOn with
  | nil => simp
  | append_singleton more n ih =>
    have hn := h n (by simp)
    rw [← List.append_assoc, lastOpen_concat, hn.1, hn.2]
    simpa using ih fun m hm => h m (by simp [hm])

/-- A last opening is a notification that `opens` accepts, with no closing one after it. -/
theorem lastOpen_eq_some {t : Int} (h : lastOpen opens closes log = some t) :
    ∃ l₀ x l, log = l₀ ++ x :: l ∧ opens x ∧ x.timestamp = t ∧
      ∀ z ∈ l, closes z = false := by
  induction log using List.reverseRecOn with
  | nil => simp [lastOpen] at h
  | append_singleton log n ih =>
    rw [lastOpen_concat] at h
    split_ifs at h with ho hc
    · exact ⟨log, n, [], by simp, ho, Option.some_inj.mp h, by simp⟩
    · obtain ⟨l₀, x, l, rfl, hx, hxt, hl⟩ := ih h
      refine ⟨l₀, x, l ++ [n], by simp, hx, hxt, fun z hz => ?_⟩
      rcases List.mem_append.mp hz with hz | hz
      · exact hl z hz
      · obtain rfl : z = n := by simpa using hz
        simpa using hc

theorem lastOpen_after_close {l₀ l : List Notification} (hy : closes y) (hy' : opens y = false)
    (hl : ∀ z ∈ l, opens z = false) : lastOpen opens closes (l₀ ++ y :: l) = none := by
  induction l using List.reverseRecOn with
  | nil => simp [lastOpen_concat, hy, hy']
  | append_singleton l z ih =>
    have hz := hl z (by simp)
    rw [show l₀ ++ y :: (l ++ [z]) = (l₀ ++ y :: l) ++ [z] by simp, lastOpen_concat]
    simp only [hz, Bool.false_eq_true, if_false]
    split_ifs
    · rfl
    · exact ih fun m hm => hl m (by simp [hm])

/-- Any two notifications that `opens` accepts, with none that `closes` accepts between them,
are at least `gap` nanoseconds apart. -/
def Spaced (opens closes : Notification → Bool) (gap : Int) (log : List Notification) : Prop :=
  ∀ l₁ x l₂ y l₃, log = l₁ ++ x :: (l₂ ++ y :: l₃) → opens x → opens y →
    (∀ z ∈ l₂, closes z = false) → gap ≤ (y.timestamp - x.timestamp) * 1000000000

theorem Spaced.of_append {more : List Notification} (h : Spaced opens closes gap (log ++ more)) :
    Spaced opens closes gap log := by
  intro l₁ x l₂ y l₃ heq hx hy hl
  exact h l₁ x l₂ y (l₃ ++ more) (by simp [heq]) hx hy hl

/-- In a spaced log the last opening is no earlier than any opening after which nothing closed. -/
theorem Spaced.le_lastOpen {l₁ l₂ : List Notification}
    (h : Spaced opens closes gap (l₁ ++ x :: l₂))
    (hgap : 0 ≤ gap) (hx : opens x) (hl : ∀ z ∈ l₂, closes z = false) :
    ∃ t, lastOpen opens closes (l₁ ++ x :: l₂) = some t ∧ x.timestamp ≤ t := by
  induction l₂ using List.reverseRecOn with
  | nil => exact ⟨x.timestamp, by simp [lastOpen_concat, hx], le_rfl⟩
  | append_singleton l₂ z ih =>
    have hsplit : l₁ ++ x :: (l₂ ++ [z]) = (l₁ ++ x :: l₂) ++ [z] := by simp
    rw [hsplit] at h ⊢
    rw [lastOpen_concat]
    by_cases hz : opens z
    · have := h l₁ x l₂ z [] (by simp) hx hz fun m hm => hl m (by simp [hm])
      exact ⟨z.timestamp, by simp [hz], by omega⟩
    · simp only [hz, Bool.false_eq_true, if_false, hl z (by simp)]
      exact ih h.of_append fun m hm => hl m (by simp [hm])

theorem concat_eq_append_cons {l₁ l₂ : List Notification} (h : log ++ [y] = l₁ ++ x :: l₂) :
    (l₁ = log ∧ x = y ∧ l₂ = []) ∨ ∃ l, l₂ = l ++ [y] ∧ log = l₁ ++ x :: l := by
  rcases List.eq_nil_or_concat l₂ with rfl | ⟨l, w, rfl⟩
  · obtain ⟨hlog, hxy⟩ := List.append_inj' h rfl
    exact .inl ⟨hlog.symm, (List.singleton_inj.mp hxy).symm, rfl⟩
  · obtain ⟨hlog, hyw⟩ := List.append_inj' (show log ++ [y] = (l₁ ++ x :: l) ++ [w] by simp [h]) rfl
    obtain rfl := List.singleton_inj.mp hyw
    exact .inr ⟨l, List.concat_eq_append, hlog⟩

/-- A log stays spaced when an opening notification comes at least `gap` after the last opening. -/
theorem Spaced.concat (h : Spaced opens closes gap log) (hgap : 0 ≤ gap)
    (hy : opens y → ∀ t, lastOpen opens closes log = some t →
      gap ≤ (y.timestamp - t) * 1000000000) :
    Spaced opens closes gap (log ++ [y]) := by
  intro l₁ x l₂ y' l₃ heq hx hy' hl
  rw [show l₁ ++ x :: (l₂ ++ y' :: l₃) = (l₁ ++ x :: l₂) ++ y' :: l₃ by simp] at heq
  rcases concat_eq_append_cons heq with ⟨hlog, rfl, rfl⟩ | ⟨l, rfl, hlog⟩
  · -- the later of the two is the new notification
    subst hlog
    obtain ⟨t, ht, hxt⟩ := h.le_lastOpen hgap hx hl
    have := hy hy' t ht
    omega
  · exact h l₁ x l₂ y' l (by simp [hlog]) hx hy' hl

/-- Every notification that `closes` accepts comes after one that `opens` accepts, with none that
`closes` accepts between the two. -/
def ClosesAfterOpen (opens closes : Notification → Bool) (log : List Notification) : Prop :=
  ∀ l₁ y l₂, log = l₁ ++ y :: l₂ → closes y →
    ∃ l₀ x l, l₁ = l₀ ++ x :: l ∧ opens x ∧ ∀ z ∈ l, closes z = false

/-- A closing notification may follow whenever something is open. -/
theorem ClosesAfterOpen.concat (h : ClosesAfterOpen opens closes log)
    (hy : closes y → (lastOpen opens closes log).isSome) :
    ClosesAfterOpen opens closes (log ++ [y]) := by
  intro l₁ y' l₂ heq hy'
  rcases concat_eq_append_cons heq with ⟨rfl, rfl, rfl⟩ | ⟨l, rfl, hlog⟩
  · obtain ⟨t, ht⟩ := Option.isSome_iff_exists.mp (hy hy')
    obtain ⟨l₀, x, l, rfl, hx, -, hl⟩ := lastOpen_eq_some ht
    exact ⟨l₀, x, l, rfl, hx, hl⟩
  · exact h l₁ y' l hlog hy'

end Log

/-! ## The alerter's memory -/

/-- The key under which the failing alert of a job last fired. -/
def failingKey (job : String) : String := "sync_failing:" ++ job

/-- The key under which the stale alert of a job last fired. -/
def staleKey (job : String) : String := "sync_stale:" ++ job

theorem failingKey_inj {j j' : String} : failingKey j = failingKey j' ↔ j = j' :=
  String.append_right_inj _

theorem staleKey_inj {j j' : String} : staleKey j = staleKey j' ↔ j = j' :=
  String.append_right_inj _

theorem staleKey_ne_failingKey (j j' : String) : staleKey j ≠ failingKey j' := by
  intro h
  have := congrArg (fun s : String => s.toList.take 6) h
  simp [staleKey, failingKey] at this

@[simp] theorem about_failingNotice (s : Status) (rule : FailingRule) (now : Int) (job : String)
    (n : Int) (kind j : String) :
    (failingNotice s rule now job n).about kind j = (kindFailing == kind && job == j) := rfl

@[simp] theorem about_recoveredNotice (now : Int) (job kind j : String) :
    (recoveredNotice now job).about kind j = (kindRecovered == kind && job == j) := rfl

@[simp] theorem about_staleNotice (rule : StaleRule) (now last : Int) (age : Int64)
    (job kind j : String) :
    (staleNotice rule now last age job).about kind j = (kindStale == kind && job == j) := rfl

@[simp] theorem failingNotice_timestamp (s : Status) (rule : FailingRule) (now : Int) (job : String)
    (n : Int) : (failingNotice s rule now job n).timestamp = now := rfl

@[simp] theorem recoveredNotice_timestamp (now : Int) (job : String) :
    (recoveredNotice now job).timestamp = now := rfl

@[simp] theorem staleNotice_timestamp (rule : StaleRule) (now last : Int) (age : Int64)
    (job : String) : (staleNotice rule now last age job).timestamp = now := rfl

@[simp] theorem kinds_differ :
    (kindFailing == kindRecovered) = false ∧ (kindRecovered == kindFailing) = false ∧
      (kindFailing == kindStale) = false ∧ (kindStale == kindFailing) = false ∧
      (kindRecovered == kindStale) = false ∧ (kindStale == kindRecovered) = false := by
  decide

theorem failing_of_recovered {y : Notification} {j : String}
    (h : y.about kindRecovered j) : y.about kindFailing j = false := by
  simp only [Notification.about, Bool.and_eq_true, beq_iff_eq] at h
  simp [Notification.about, h.1]

/-- A duration since an earlier alert that reaches a cooldown that is not negative means the two
instants are at least the cooldown apart. -/
theorem le_of_le_between {cooldown : Int64} {now last : Int} (hc : 0 ≤ cooldown)
    (h : cooldown ≤ Duration.between now last) : cooldown.toInt ≤ (now - last) * 1000000000 := by
  rw [Int64.le_iff_toInt_le] at hc h
  unfold Duration.between Duration.ofNanos at h
  split_ifs at h with hlo hhi
  · simp [Duration.least] at h
    simp at hc
    omega
  · simp [Duration.greatest, Int64.toInt_maxValue] at h hhi
    omega
  · simp only [Int64.toInt_minValue, Int64.toInt_maxValue, not_lt] at hlo hhi
    rw [Int64.toInt_ofInt_of_le (by omega) (by omega)] at h
    exact h

/-- Firing an alert either stays quiet, within the cooldown since the alert last fired, or
remembers the instant and sends the notification. -/
theorem Alerter.fire_cases (a : Alerter) (now : Int) (key : String) (cooldown : Int64)
    (n : Notification) :
    (∃ last, a.lastFired.find? key = some last ∧ Duration.between now last < cooldown ∧
      a.fire now key cooldown n = (a, none)) ∨
    ((∀ last, a.lastFired.find? key = some last → cooldown ≤ Duration.between now last) ∧
      a.fire now key cooldown n = ({ a with lastFired := a.lastFired.insert key now }, some n)) := by
  unfold Alerter.fire
  split
  · next last hlast =>
    split_ifs with hc
    · exact .inl ⟨last, hlast, hc, rfl⟩
    · refine .inr ⟨fun l hl => ?_, rfl⟩
      rw [hlast] at hl
      cases hl
      rw [Int64.lt_iff_toInt_lt] at hc
      exact Int64.le_iff_toInt_le.mpr (by omega)
  · next hnone => exact .inr ⟨fun l hl => by simp [hnone] at hl, rfl⟩

/-- The failure streak of a job: how many of its runs in a row failed, none for a job never run. -/
def Status.count (s : Status) (job : String) : Int := (s.failures.find? job).getD 0

theorem Status.find?_of_count_pos {s : Status} {job : String} (h : 0 < s.count job) :
    s.failures.find? job = some (s.count job) := by
  unfold Status.count at *
  cases hfind : s.failures.find? job with
  | none => simp [hfind] at h
  | some n => rfl

theorem Status.ordered_record {s : Status} (h : s.failures.Ordered) (key : String) (r : Report) :
    (s.record key r).failures.Ordered := by
  unfold Status.record
  split
  · exact h.insert
  · exact h.insert

/-- The alerter marks a job as having an open failing episode. -/
def Alerter.markFailing (a : Alerter) (job : String) : Alerter :=
  if a.failing.contains job then a else { a with failing := a.failing ++ [job] }

@[simp] theorem Alerter.markFailing_lastFired (a : Alerter) (job : String) :
    (a.markFailing job).lastFired = a.lastFired := by
  unfold markFailing; split <;> rfl

@[simp] theorem Alerter.markFailing_rules (a : Alerter) (job : String) :
    (a.markFailing job).rules = a.rules := by
  unfold markFailing; split <;> rfl

theorem Alerter.mem_markFailing {a : Alerter} {job j : String} :
    j ∈ (a.markFailing job).failing ↔ j = job ∨ j ∈ a.failing := by
  unfold markFailing
  split
  · next h =>
    have : job ∈ a.failing := List.contains_iff_mem.mp h
    constructor
    · exact .inr
    · rintro (rfl | h) <;> assumption
  · simp [or_comm]

theorem Alerter.nodup_markFailing {a : Alerter} {job : String} (h : a.failing.Nodup) :
    (a.markFailing job).failing.Nodup := by
  unfold markFailing
  split
  · exact h
  · next hc =>
    have : job ∉ a.failing := fun hm => hc (List.contains_iff_mem.mpr hm)
    simpa [List.nodup_append] using ⟨h, fun x hx hxj => this (hxj ▸ hx)⟩

/-- The failing alerts about a job, and the recoveries that close their episodes. -/
abbrev failingAbout (j : String) : Notification → Bool := Notification.about kindFailing j
abbrev recoveredAbout (j : String) : Notification → Bool := Notification.about kindRecovered j
abbrev staleAbout (j : String) : Notification → Bool := Notification.about kindStale j

/-- The alerter remembers what it sent: for each job, the instant of the failing alert that opened
its current episode (none once it recovered), whether an episode is open, and the instant of its
last stale alert. -/
structure Alerter.Remembers (a : Alerter) (log : List Notification) : Prop where
  failing_at : ∀ j,
    a.lastFired.find? (failingKey j) = lastOpen (failingAbout j) (recoveredAbout j) log
  open_iff : ∀ j, j ∈ a.failing ↔ (lastOpen (failingAbout j) (recoveredAbout j) log).isSome
  nodup : a.failing.Nodup
  stale_at : ∀ j, a.lastFired.find? (staleKey j) = lastOpen (staleAbout j) (fun _ => false) log

namespace Alerter.Remembers

variable {a : Alerter} {log : List Notification} {k : String}

theorem empty (rules : AlertRules) : ({ rules } : Alerter).Remembers [] :=
  ⟨fun _ => rfl, fun _ => by simp [lastOpen], List.nodup_nil, fun _ => rfl⟩

theorem held (h : a.Remembers log) {last : Int}
    (hlast : a.lastFired.find? (failingKey k) = some last) :
    (a.markFailing k).Remembers log := by
  refine ⟨fun j => by simpa using h.failing_at j, fun j => ?_, nodup_markFailing h.nodup,
    fun j => by simpa using h.stale_at j⟩
  rw [mem_markFailing, h.open_iff]
  constructor
  · rintro (rfl | hj)
    · rw [← h.failing_at, hlast]; rfl
    · exact hj
  · exact .inr

theorem failingFired (h : a.Remembers log) (s : Status) (rule : FailingRule) (now n : Int) :
    ({ a.markFailing k with lastFired := a.lastFired.insert (failingKey k) now }).Remembers
      (log ++ [failingNotice s rule now k n]) := by
  refine ⟨fun j => ?_, fun j => ?_, nodup_markFailing h.nodup, fun j => ?_⟩
  · rw [lastOpen_concat, Table.find?_insert, h.failing_at]
    by_cases hj : k = j <;> simp [hj, failingKey_inj]
  · rw [mem_markFailing, lastOpen_concat, h.open_iff]
    by_cases hj : k = j
    · subst hj; simp
    · simp [hj, Ne.symm hj]
  · rw [lastOpen_concat, Table.find?_insert, h.stale_at]
    simp [(staleKey_ne_failingKey j k).symm]

theorem recovered (h : a.Remembers log) (now : Int) :
    ({ a with failing := a.failing.erase k, lastFired := a.lastFired.erase (failingKey k) }).Remembers
      (log ++ [recoveredNotice now k]) := by
  refine ⟨fun j => ?_, fun j => ?_, h.nodup.erase k, fun j => ?_⟩
  · rw [lastOpen_concat, Table.find?_erase, h.failing_at]
    by_cases hj : k = j <;> simp [hj, failingKey_inj]
  · rw [h.nodup.mem_erase_iff, lastOpen_concat, h.open_iff]
    by_cases hj : k = j
    · subst hj; simp
    · simp [hj, Ne.symm hj]
  · rw [lastOpen_concat, Table.find?_erase, h.stale_at]
    simp [(staleKey_ne_failingKey j k).symm]

/-- A stale alert that fires is remembered at its instant. -/
theorem staleFired (h : a.Remembers log) (rule : StaleRule) (now last : Int) (age : Int64) :
    ({ a with lastFired := a.lastFired.insert (staleKey k) now }).Remembers
      (log ++ [staleNotice rule now last age k]) := by
  refine ⟨fun j => ?_, fun j => ?_, h.nodup, fun j => ?_⟩
  · rw [lastOpen_concat, Table.find?_insert, h.failing_at]
    simp [staleKey_ne_failingKey k j]
  · rw [lastOpen_concat, h.open_iff]
    simp
  · rw [lastOpen_concat, Table.find?_insert, h.stale_at]
    by_cases hj : k = j <;> simp [hj, staleKey_inj]

end Alerter.Remembers

/-! ## One evaluation -/

/-- Rules whose failing threshold is at least one and whose cooldowns are not negative. -/
structure AlertRules.Sane (rules : AlertRules) : Prop where
  failing : ∀ r ∈ rules.failing, 1 ≤ r.threshold ∧ 0 ≤ r.cooldown
  stale : ∀ r ∈ rules.stale, 0 ≤ r.cooldown

theorem toInt_nonneg {d : Int64} (h : 0 ≤ d) : 0 ≤ d.toInt := by
  simpa [Int64.le_iff_toInt_le] using h

/-- The log of alerts about job `j` keeps to the rules: failing alerts of one episode are at least
the failing cooldown apart, any two stale alerts at least the stale cooldown, and each recovery
closes an episode that a failing alert opened. -/
structure EpisodeLog (rules : AlertRules) (j : String) (log : List Notification) : Prop where
  failing_spaced : ∀ r ∈ rules.failing,
    Spaced (failingAbout j) (recoveredAbout j) r.cooldown.toInt log
  stale_spaced : ∀ r ∈ rules.stale, Spaced (staleAbout j) (fun _ => false) r.cooldown.toInt log
  recovered_after_failing : ClosesAfterOpen (failingAbout j) (recoveredAbout j) log

namespace EpisodeLog

variable {rules : AlertRules} {j : String} {log : List Notification} {y : Notification}

theorem empty (rules : AlertRules) (j : String) : EpisodeLog rules j [] := by
  refine ⟨fun _ _ l₁ x l₂ y l₃ h => ?_, fun _ _ l₁ x l₂ y l₃ h => ?_, fun l₁ y l₂ h => ?_⟩ <;>
    simp at h

/-- A notification keeps the laws when a failing or stale alert comes at least its cooldown after
the last one of its episode, and a recovery comes while an episode is open. -/
theorem concat (h : EpisodeLog rules j log) (hsane : rules.Sane)
    (hfailing : ∀ r ∈ rules.failing, failingAbout j y → ∀ t,
      lastOpen (failingAbout j) (recoveredAbout j) log = some t →
        r.cooldown.toInt ≤ (y.timestamp - t) * 1000000000)
    (hstale : ∀ r ∈ rules.stale, staleAbout j y → ∀ t,
      lastOpen (staleAbout j) (fun _ => false) log = some t →
        r.cooldown.toInt ≤ (y.timestamp - t) * 1000000000)
    (hrecovered : recoveredAbout j y → (lastOpen (failingAbout j) (recoveredAbout j) log).isSome) :
    EpisodeLog rules j (log ++ [y]) :=
  ⟨fun r hr => (h.failing_spaced r hr).concat (toInt_nonneg (hsane.failing r hr).2) (hfailing r hr),
   fun r hr => (h.stale_spaced r hr).concat (toInt_nonneg (hsane.stale r hr)) (hstale r hr),
   h.recovered_after_failing.concat hrecovered⟩

end EpisodeLog

/-- The alerter's memory matches its log, and the log keeps the laws for every job. -/
structure Alerter.Sound (rules : AlertRules) (a : Alerter) (log : List Notification) : Prop where
  rules_eq : a.rules = rules
  remembers : a.Remembers log
  laws : ∀ j, EpisodeLog rules j log

/-- What the failing rule does with one job's streak: at the threshold it marks the job failing
and fires; at zero after a failing episode it announces the recovery; otherwise nothing. -/
theorem checkFailing_cases (s : Status) (rule : FailingRule) (now : Int) (a : Alerter) (k : String)
    (n : Int) :
    (rule.threshold ≤ n ∧ Alerter.checkFailing s rule now (a, []) (k, n) =
      (((a.markFailing k).fire now (failingKey k) rule.cooldown (failingNotice s rule now k n)).1,
        ((a.markFailing k).fire now (failingKey k) rule.cooldown
          (failingNotice s rule now k n)).2.toList)) ∨
    (¬ rule.threshold ≤ n ∧ k ∈ a.failing ∧ n = 0 ∧
      Alerter.checkFailing s rule now (a, []) (k, n) =
      ({ a with failing := a.failing.erase k, lastFired := a.lastFired.erase (failingKey k) },
        [recoveredNotice now k])) ∨
    (¬ rule.threshold ≤ n ∧ ¬ (k ∈ a.failing ∧ n = 0) ∧
      Alerter.checkFailing s rule now (a, []) (k, n) = (a, [])) := by
  by_cases hn : rule.threshold ≤ n
  · refine .inl ⟨hn, ?_⟩
    simp only [Alerter.checkFailing, ge_iff_le, hn, if_true]
    rfl
  · by_cases hrec : k ∈ a.failing ∧ n = 0
    · obtain ⟨hk, rfl⟩ := hrec
      refine .inr (.inl ⟨hn, hk, rfl, ?_⟩)
      simp [Alerter.checkFailing, hn, hk, failingKey]
    · refine .inr (.inr ⟨hn, hrec, ?_⟩)
      simp only [Alerter.checkFailing, ge_iff_le, hn, if_false, List.contains_iff_mem]
      rw [if_neg hrec]

theorem checkStale_cases (rule : StaleRule) (now : Int) (a : Alerter) (k : String) (last : Int) :
    (Duration.between now last < rule.maxAge ∧
      Alerter.checkStale rule now (a, []) (k, last) = (a, [])) ∨
    (¬ Duration.between now last < rule.maxAge ∧ Alerter.checkStale rule now (a, []) (k, last) =
      ((a.fire now (staleKey k) rule.cooldown
          (staleNotice rule now last (Duration.between now last) k)).1,
        (a.fire now (staleKey k) rule.cooldown
          (staleNotice rule now last (Duration.between now last) k)).2.toList)) := by
  simp only [Alerter.checkStale]
  split_ifs with h
  · exact .inl ⟨h, rfl⟩
  · exact .inr ⟨h, by simp [staleKey]⟩

theorem Alerter.mem_fire {a : Alerter} {now : Int} {key : String} {cooldown : Int64}
    {n y : Notification} (hy : y ∈ (a.fire now key cooldown n).2.toList) : y = n := by
  rcases a.fire_cases now key cooldown n with ⟨_, _, _, hfire⟩ | ⟨_, hfire⟩ <;>
    simp [hfire] at hy
  exact hy

section Passes

variable {s : Status} {rule : FailingRule} {now : Int} {a : Alerter} {k j : String} {n : Int}
  {y : Notification}

theorem checkFailing_sent (hy : y ∈ (Alerter.checkFailing s rule now (a, []) (k, n)).2) :
    (failingAbout j y → j = k ∧ rule.threshold ≤ n) ∧ (recoveredAbout j y → j = k ∧ n = 0) ∧
      staleAbout j y = false := by
  rcases checkFailing_cases s rule now a k n with ⟨hn, heq⟩ | ⟨_, _, rfl, heq⟩ | ⟨_, _, heq⟩ <;>
    rw [heq] at hy
  · obtain rfl := Alerter.mem_fire hy
    refine ⟨fun h => ⟨?_, hn⟩, fun h => ?_, by simp⟩ <;> simp at h
    exact h.symm
  · obtain rfl : y = recoveredNotice now k := by simpa using hy
    refine ⟨fun h => ?_, fun h => ⟨?_, rfl⟩, by simp⟩ <;> simp at h
    exact h.symm
  · simp at hy

/-- The stale rule sends no failing alert and no recovery. -/
theorem checkStale_sent {srule : StaleRule} {last : Int}
    (hy : y ∈ (Alerter.checkStale srule now (a, []) (k, last)).2) :
    failingAbout j y = false ∧ recoveredAbout j y = false := by
  rcases checkStale_cases srule now a k last with ⟨_, heq⟩ | ⟨_, heq⟩ <;> rw [heq] at hy
  · simp at hy
  · obtain rfl := Alerter.mem_fire hy
    simp

end Passes

section Folds

variable {E : Type} {f : Alerter × List Notification → E → Alerter × List Notification}

/-- A pass whose step adds its notifications after those sent before it. -/
def Appends (f : Alerter × List Notification → E → Alerter × List Notification) : Prop :=
  ∀ a sent e, f (a, sent) e = ((f (a, []) e).1, sent ++ (f (a, []) e).2)

theorem foldl_appends (hf : Appends f) (es : List E) (a : Alerter) (sent : List Notification) :
    es.foldl f (a, sent) = ((es.foldl f (a, [])).1, sent ++ (es.foldl f (a, [])).2) := by
  induction es generalizing a sent with
  | nil => simp
  | cons e rest ih =>
    rcases he : f (a, []) e with ⟨a₁, new⟩
    rw [List.foldl_cons, List.foldl_cons, hf, he, ih, ih a₁ new]
    simp

theorem foldl_keeps (hf : Appends f) (P : Alerter → List Notification → Prop)
    (hstep : ∀ a L e, P a L → P (f (a, []) e).1 (L ++ (f (a, []) e).2)) (es : List E) :
    ∀ a L, P a L → P (es.foldl f (a, [])).1 (L ++ (es.foldl f (a, [])).2) := by
  induction es with
  | nil => intro a L h; simpa using h
  | cons e rest ih =>
    intro a L h
    have h₁ := hstep a L e h
    rcases he : f (a, []) e with ⟨a₁, new⟩
    rw [he] at h₁
    rw [List.foldl_cons, he, foldl_appends hf]
    simpa using ih a₁ (L ++ new) h₁

theorem mem_foldl (hf : Appends f) {es : List E} {a : Alerter} {y : Notification}
    (hy : y ∈ (es.foldl f (a, [])).2) : ∃ e ∈ es, ∃ a', y ∈ (f (a', []) e).2 := by
  induction es generalizing a with
  | nil => simp at hy
  | cons e rest ih =>
    rcases he : f (a, []) e with ⟨a₁, new⟩
    rw [List.foldl_cons, he, foldl_appends hf, List.mem_append] at hy
    rcases hy with hy | hy
    · exact ⟨e, List.mem_cons_self, a, by simpa [he] using hy⟩
    · obtain ⟨e', he', a', hy'⟩ := ih hy
      exact ⟨e', List.mem_cons_of_mem _ he', a', hy'⟩

end Folds

theorem checkFailing_appends (s : Status) (rule : FailingRule) (now : Int) :
    Appends (Alerter.checkFailing s rule now) := by
  intro a sent ⟨k, n⟩
  simp only [Alerter.checkFailing]
  by_cases hn : n ≥ rule.threshold
  · simp only [hn, if_true]
    rfl
  · simp only [hn, if_false]
    split <;> simp

theorem checkStale_appends (rule : StaleRule) (now : Int) : Appends (Alerter.checkStale rule now) := by
  intro a sent e
  simp only [Alerter.checkStale]
  split_ifs
  · simp
  · rfl

namespace Alerter.Sound

variable {rules : AlertRules} {a : Alerter} {log : List Notification}

/-- One step of the failing rule keeps the memory and the laws. -/
theorem checkFailing (h : a.Sound rules log) (hsane : rules.Sane) {rule : FailingRule}
    (hrule : rules.failing = some rule) (s : Status) (now : Int) (e : String × Int) :
    (Alerter.checkFailing s rule now (a, []) e).1.Sound rules
      (log ++ (Alerter.checkFailing s rule now (a, []) e).2) := by
  obtain ⟨k, n⟩ := e
  rcases checkFailing_cases s rule now a k n with ⟨_, heq⟩ | ⟨_, hk, rfl, heq⟩ | ⟨_, _, heq⟩ <;>
    rw [heq]
  · rcases (a.markFailing k).fire_cases now (failingKey k) rule.cooldown
      (failingNotice s rule now k n) with ⟨last, hlast, _, hfire⟩ | ⟨hok, hfire⟩ <;> rw [hfire]
    · -- still in its cooldown: the episode is open and nothing is sent
      simpa using ⟨by simp [h.rules_eq], h.remembers.held (by simpa using hlast), h.laws⟩
    · refine ⟨by simpa using h.rules_eq, by simpa using h.remembers.failingFired s rule now n,
        fun j => ?_⟩
      refine (h.laws j).concat hsane (fun r hr hy t ht => ?_) (fun _ _ hy => by simp at hy)
        (fun hy => by simp at hy)
      obtain rfl : r = rule := Option.mem_unique hr (by simp [hrule])
      obtain rfl : k = j := by simpa using hy
      rw [← h.remembers.failing_at] at ht
      simpa using le_of_le_between (hsane.failing r hr).2 (hok t (by simpa using ht))
  · refine ⟨h.rules_eq, h.remembers.recovered now, fun j => ?_⟩
    refine (h.laws j).concat hsane (fun _ _ hy => by simp at hy) (fun _ _ hy => by simp at hy)
      (fun hy => ?_)
    obtain rfl : k = j := by simpa using hy
    exact (h.remembers.open_iff k).mp hk
  · simpa using h

/-- One step of the stale rule keeps the memory and the laws. -/
theorem checkStale (h : a.Sound rules log) (hsane : rules.Sane) {rule : StaleRule}
    (hrule : rules.stale = some rule) (now : Int) (e : String × Int) :
    (Alerter.checkStale rule now (a, []) e).1.Sound rules
      (log ++ (Alerter.checkStale rule now (a, []) e).2) := by
  obtain ⟨k, last⟩ := e
  rcases checkStale_cases rule now a k last with ⟨_, heq⟩ | ⟨_, heq⟩ <;> rw [heq]
  · simpa using h
  · rcases a.fire_cases now (staleKey k) rule.cooldown
      (staleNotice rule now last (Duration.between now last) k) with
      ⟨_, _, _, hfire⟩ | ⟨hok, hfire⟩ <;> rw [hfire]
    · simpa using h
    · refine ⟨h.rules_eq, h.remembers.staleFired rule now last _, fun j => ?_⟩
      refine (h.laws j).concat hsane (fun _ _ hy => by simp at hy) (fun r hr hy t ht => ?_)
        (fun hy => by simp at hy)
      obtain rfl : r = rule := Option.mem_unique hr (by simp [hrule])
      obtain rfl : k = j := by simpa using hy
      rw [← h.remembers.stale_at] at ht
      simpa using le_of_le_between (hsane.stale r hr) (hok t ht)

theorem failingPass (h : a.Sound rules log) (hsane : rules.Sane) {rule : FailingRule}
    (hrule : rules.failing = some rule) (s : Status) (now : Int) :
    (s.failures.foldl (Alerter.checkFailing s rule now) (a, [])).1.Sound rules
      (log ++ (s.failures.foldl (Alerter.checkFailing s rule now) (a, [])).2) :=
  foldl_keeps (checkFailing_appends s rule now) (fun a L => a.Sound rules L)
    (fun _ _ e ha => ha.checkFailing hsane hrule s now e) s.failures a log h

theorem stalePass {p : Alerter × List Notification} (h : p.1.Sound rules (log ++ p.2))
    (hsane : rules.Sane) {rule : StaleRule} (hrule : rules.stale = some rule) (s : Status)
    (now : Int) :
    (s.lastPoll.foldl (Alerter.checkStale rule now) p).1.Sound rules
      (log ++ (s.lastPoll.foldl (Alerter.checkStale rule now) p).2) := by
  obtain ⟨a₁, sent₁⟩ := p
  rw [foldl_appends (checkStale_appends rule now)]
  simpa using foldl_keeps (checkStale_appends rule now) (fun a L => a.Sound rules L)
    (fun _ _ e ha => ha.checkStale hsane hrule now e) s.lastPoll a₁ (log ++ sent₁) h

theorem evaluate (h : a.Sound rules log) (hsane : rules.Sane) (s : Status) (now : Int) :
    (a.evaluate s now).1.Sound rules (log ++ (a.evaluate s now).2) := by
  unfold Alerter.evaluate
  dsimp only
  rw [h.rules_eq]
  rcases hf : rules.failing with _ | rule <;> rcases hs : rules.stale with _ | srule <;> dsimp only
  · simpa using h
  · exact stalePass (by simpa using h) hsane hs s now
  · exact failingPass h hsane hf s now
  · exact stalePass (failingPass h hsane hf s now) hsane hs s now

end Alerter.Sound

/-- Whatever an evaluation sends, a step of the failing pass or of the stale pass sent. -/
theorem mem_evaluate {a : Alerter} {s : Status} {now : Int} {y : Notification}
    (hy : y ∈ (a.evaluate s now).2) :
    (∃ rule ∈ a.rules.failing, ∃ e ∈ s.failures, ∃ a',
      y ∈ (Alerter.checkFailing s rule now (a', []) e).2) ∨
    (∃ rule ∈ a.rules.stale, ∃ e ∈ s.lastPoll, ∃ a',
      y ∈ (Alerter.checkStale rule now (a', []) e).2) := by
  have hfailing : ∀ rule ∈ a.rules.failing,
      y ∈ (s.failures.foldl (Alerter.checkFailing s rule now) (a, [])).2 →
      ∃ e ∈ s.failures, ∃ a', y ∈ (Alerter.checkFailing s rule now (a', []) e).2 :=
    fun rule _ hy => mem_foldl (checkFailing_appends s rule now) hy
  unfold Alerter.evaluate at hy
  dsimp only at hy
  rcases hf : a.rules.failing with _ | rule <;> rcases hs : a.rules.stale with _ | srule <;>
    simp only [hf, hs] at hy
  · simp at hy
  · exact .inr ⟨srule, rfl, mem_foldl (checkStale_appends srule now) hy⟩
  · exact .inl ⟨rule, rfl, hfailing rule (by simp [hf]) hy⟩
  · rw [foldl_appends (checkStale_appends srule now), List.mem_append] at hy
    rcases hy with hy | hy
    · exact .inl ⟨rule, rfl, hfailing rule (by simp [hf]) hy⟩
    · exact .inr ⟨srule, rfl, mem_foldl (checkStale_appends srule now) hy⟩

theorem evaluate_extends {a : Alerter} {rule : FailingRule} (hrule : a.rules.failing = some rule)
    (s : Status) (now : Int) :
    ∃ more, (a.evaluate s now).2 =
      (s.failures.foldl (Alerter.checkFailing s rule now) (a, [])).2 ++ more := by
  unfold Alerter.evaluate
  dsimp only
  rw [hrule]
  rcases hs : a.rules.stale with _ | srule <;> dsimp only
  · exact ⟨[], by simp⟩
  · rw [foldl_appends (checkStale_appends srule now)]
    exact ⟨_, rfl⟩

/-- A failing alert or a recovery about job `j` in an evaluation comes from `j`'s own streak: one
at or over the threshold of the failing rule for the alert, zero for the recovery. -/
theorem evaluate_about {a : Alerter} {s : Status} {now : Int} {y : Notification} {j : String}
    (hy : y ∈ (a.evaluate s now).2) (habout : failingAbout j y ∨ recoveredAbout j y) :
    ∃ rule ∈ a.rules.failing, ∃ n, (j, n) ∈ s.failures ∧
      (failingAbout j y → rule.threshold ≤ n) ∧ (recoveredAbout j y → n = 0) := by
  rcases mem_evaluate hy with ⟨rule, hrule, ⟨k, n⟩, he, a', hy'⟩ | ⟨_, _, ⟨k, _⟩, _, _, hy'⟩
  · obtain ⟨hf, hr, -⟩ := checkFailing_sent (j := j) hy'
    rcases habout with habout | habout
    · obtain ⟨rfl, hn⟩ := hf habout
      exact ⟨rule, hrule, n, he, fun _ => hn, fun h' => (hr h').2⟩
    · obtain ⟨rfl, hn⟩ := hr habout
      exact ⟨rule, hrule, n, he, fun h' => (hf h').2, fun _ => hn⟩
  · -- the stale pass says nothing about failing or recovering
    obtain ⟨hf, hr⟩ := checkStale_sent (j := j) hy'
    rcases habout with habout | habout <;> simp_all

/-- Once no failing episode of job `j` is open, its streak at the threshold fires at once. -/
theorem failingPass_fires {rules : AlertRules} {a : Alerter} {log : List Notification}
    (h : a.Sound rules log) (hsane : rules.Sane) {rule : FailingRule}
    (hrule : rules.failing = some rule) {s : Status} {j : String} {n : Int}
    (hn : s.failures.find? j = some n) (hthreshold : rule.threshold ≤ n)
    (hclosed : lastOpen (failingAbout j) (recoveredAbout j) log = none) (now : Int) :
    failingNotice s rule now j n ∈
      (s.failures.foldl (Alerter.checkFailing s rule now) (a, [])).2 := by
  obtain ⟨pre, post, hsplit, hpre⟩ := Table.find?_eq_some hn
  have happ := checkFailing_appends s rule now
  -- the entries before `j`'s are about other jobs and leave its episode closed
  rcases hp : pre.foldl (Alerter.checkFailing s rule now) (a, []) with ⟨a₁, sent₁⟩
  have h₁ : a₁.Sound rules (log ++ sent₁) := by
    simpa [hp] using foldl_keeps happ (fun a L => a.Sound rules L)
      (fun _ _ e ha => ha.checkFailing hsane hrule s now e) pre a log h
  have hunrelated : ∀ z ∈ sent₁, failingAbout j z = false ∧ recoveredAbout j z = false := by
    intro z hz
    have hz : z ∈ (pre.foldl (Alerter.checkFailing s rule now) (a, [])).2 := by rw [hp]; exact hz
    obtain ⟨⟨k, m⟩, he, a', hz'⟩ := mem_foldl happ hz
    have hk : k ≠ j := hpre _ he
    obtain ⟨hf, hr, -⟩ := checkFailing_sent (j := j) hz'
    exact ⟨Bool.eq_false_iff.mpr fun h => hk (hf h).1.symm,
      Bool.eq_false_iff.mpr fun h => hk (hr h).1.symm⟩
  have hnone : a₁.lastFired.find? (failingKey j) = none := by
    rw [h₁.remembers.failing_at, lastOpen_append_of_unrelated hunrelated, hclosed]
  have hfires :
      failingNotice s rule now j n ∈ (Alerter.checkFailing s rule now (a₁, []) (j, n)).2 := by
    rcases checkFailing_cases s rule now a₁ j n with ⟨_, heq⟩ | ⟨hn', _⟩ | ⟨hn', _⟩
    · rw [heq]
      rcases (a₁.markFailing j).fire_cases now (failingKey j) rule.cooldown
        (failingNotice s rule now j n) with ⟨last, hlast, _, _⟩ | ⟨_, hfire⟩
      · simp [hnone] at hlast
      · simp [hfire]
    · exact absurd hthreshold hn'
    · exact absurd hthreshold hn'
  rw [hsplit, List.foldl_append, hp, List.foldl_cons, happ, foldl_appends happ]
  simp [hfires]

/-! ## Runs of the watched jobs -/

/-- What happens to the watched jobs: a run of a job is recorded, or the alert rules are evaluated
at an instant, in Unix seconds. -/
inductive Event where
  | record (key : String) (r : Report)
  | evaluate (now : Int)

/-- The job status and the alerter that watches it. -/
structure Watch where
  status : Status := {}
  alerter : Alerter

/-- A watch that has seen nothing yet, under some alert rules. -/
def Watch.start (rules : AlertRules) : Watch := { alerter := { rules } }

/-- One event: the watch after it and the notifications it sent. -/
def Watch.step (w : Watch) : Event → Watch × List Notification
  | .record key r => ({ w with status := w.status.record key r }, [])
  | .evaluate now =>
    ({ w with alerter := (w.alerter.evaluate w.status now).1 }, (w.alerter.evaluate w.status now).2)

/-- Events in turn: the watch after them and every notification sent, in order. -/
def Watch.run (w : Watch) : List Event → Watch × List Notification
  | [] => (w, [])
  | e :: rest => (((w.step e).1.run rest).1, (w.step e).2 ++ ((w.step e).1.run rest).2)

/-- The failure streaks are kept in key order, and the alerter's memory and log are sound. -/
structure Watch.Sound (rules : AlertRules) (w : Watch) (log : List Notification) : Prop where
  ordered : w.status.failures.Ordered
  alerter : w.alerter.Sound rules log

theorem Watch.Sound.start (rules : AlertRules) : (Watch.start rules).Sound rules [] :=
  ⟨List.Pairwise.nil, ⟨rfl, Alerter.Remembers.empty rules, EpisodeLog.empty rules⟩⟩

theorem Watch.Sound.step {rules : AlertRules} {w : Watch} {log : List Notification}
    (h : w.Sound rules log) (hsane : rules.Sane) (e : Event) :
    (w.step e).1.Sound rules (log ++ (w.step e).2) := by
  cases e with
  | record key r =>
    exact ⟨Status.ordered_record h.ordered key r, by simpa [Watch.step] using h.alerter⟩
  | evaluate now => exact ⟨h.ordered, h.alerter.evaluate hsane w.status now⟩

/-- Every run keeps the watch sound. -/
theorem Watch.Sound.run {rules : AlertRules} {w : Watch} {log : List Notification}
    (h : w.Sound rules log) (hsane : rules.Sane) (events : List Event) :
    (w.run events).1.Sound rules (log ++ (w.run events).2) := by
  induction events generalizing w log with
  | nil => simpa [Watch.run] using h
  | cons e rest ih => simpa [Watch.run] using ih (h.step hsane e)

/-- An evaluation keeps to the rules for job `j`: it calls `j` failing only at or over the
threshold and recovered only at a streak of zero, and after a recovery the first failing alert
fires with no cooldown left over. -/
structure EpisodeTurn (rules : AlertRules) (j : String) (s : Status) (log sent : List Notification) :
    Prop where
  failing_at_threshold :
    ∀ r ∈ rules.failing, ∀ y ∈ sent, failingAbout j y → r.threshold ≤ s.count j
  recovered_at_zero : ∀ y ∈ sent, recoveredAbout j y → s.count j = 0
  failing_after_recovery : ∀ r ∈ rules.failing, r.threshold ≤ s.count j →
    (∃ l₁ y l₂, log = l₁ ++ y :: l₂ ∧ recoveredAbout j y ∧ ∀ z ∈ l₂, failingAbout j z = false) →
    ∃ y ∈ sent, failingAbout j y

/-- An evaluation of a sound watch keeps to the rules for every job. -/
theorem Watch.Sound.turn {rules : AlertRules} {w : Watch} {log : List Notification}
    (h : w.Sound rules log) (hsane : rules.Sane) (now : Int) (j : String) :
    EpisodeTurn rules j w.status log (w.step (.evaluate now)).2 := by
  have hrules := h.alerter.rules_eq
  have hcount : ∀ n, (j, n) ∈ w.status.failures → w.status.count j = n := fun n hn => by
    simp [Status.count, h.ordered.find?_of_mem hn]
  refine ⟨fun r hr y hy hf => ?_, fun y hy hr => ?_, fun r hr hthreshold hrecovered => ?_⟩
  · obtain ⟨rule, hrule, n, hn, hle, -⟩ := evaluate_about hy (.inl hf)
    obtain rfl : rule = r := Option.mem_unique (hrules ▸ hrule) hr
    rw [hcount n hn]
    exact hle hf
  · obtain ⟨rule, hrule, n, hn, -, hzero⟩ := evaluate_about hy (.inr hr)
    rw [hcount n hn]
    exact hzero hr
  · -- a streak at the threshold, which is at least one, is in the table
    have hn := Status.find?_of_count_pos (lt_of_lt_of_le (hsane.failing r hr).1 hthreshold)
    obtain ⟨l₁, y₀, l₂, hlog, hy₀, hl₂⟩ := hrecovered
    have hclosed : lastOpen (failingAbout j) (recoveredAbout j) log = none := by
      rw [hlog]
      exact lastOpen_after_close hy₀ (failing_of_recovered hy₀) hl₂
    have hrule : rules.failing = some r := by simpa using hr
    obtain ⟨more, hmore⟩ := evaluate_extends (hrules ▸ hrule) w.status now
    refine ⟨failingNotice w.status r now j (w.status.count j), ?_, by simp⟩
    simp only [Watch.step, hmore, List.mem_append]
    exact .inl (failingPass_fires h.alerter hsane hrule hn hthreshold hclosed now)

/-- **Alerts follow the failure episodes of each job.** Over every interleaving of recorded runs
and evaluations, for every job: failing alerts of one episode, and any two stale alerts, are at
least their cooldown apart; every recovery closes an episode that a failing alert opened; an
evaluation calls a job failing only at or over the threshold and recovered only at a streak of
zero; and after a recovery, the first streak at the threshold fires with no cooldown left over. -/
theorem alerts_follow_episodes {rules : AlertRules} (hsane : rules.Sane) (events : List Event)
    (now : Int) (j : String) :
    let run := (Watch.start rules).run events
    EpisodeLog rules j run.2 ∧
      EpisodeTurn rules j run.1.status run.2 (run.1.step (.evaluate now)).2 := by
  have hsound := (Watch.Sound.start rules).run hsane events
  rw [List.nil_append] at hsound
  exact ⟨hsound.alerter.laws j, hsound.turn hsane now j⟩

theorem AlertRules.sane_usual : AlertRules.usual.Sane :=
  ⟨fun r hr => by simp [AlertRules.usual] at hr; subst hr; decide,
   fun r hr => by simp [AlertRules.usual] at hr; subst hr; decide⟩

/-- Three failed runs of the track refresh, then an evaluation an hour later. -/
theorem usual_rules_follow_episodes :
    AlertRules.usual.Sane ∧
      let run := (Watch.start .usual).run
        [.record "tracks" { job := "tracks", error := "down" },
         .record "tracks" { job := "tracks", error := "down" },
         .record "tracks" { job := "tracks", error := "down" }]
      EpisodeLog .usual "tracks" run.2 ∧
        EpisodeTurn .usual "tracks" run.1.status run.2 (run.1.step (.evaluate 3600)).2 :=
  ⟨AlertRules.sane_usual, alerts_follow_episodes AlertRules.sane_usual _ 3600 "tracks"⟩

end Sync

end RaceArchive
