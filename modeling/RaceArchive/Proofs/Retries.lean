import Mathlib
import RaceArchive.Proofs.Resync

/-!
# The retry law of a document request

A document request tries a GET, and the answer decides what comes next: a 200 ends it with the
body, or with a refusal if the body is not a document; a 429 is retried after a pause, the
backoff of the number of retries so far, until the cap of retries (if there is one); a first 401
logs in again and tries once more; anything else ends it. `Tries` writes these rules as a
relation between the wire before the request and its result and wire after it, one constructor
for each way a try can go.

The wire's movement (`Wire.Moved`) is what the law counts: the pauses recorded and the GET and
POST requests the server received. Exchanges that take no pause compose (`Link.Moves`), so each
of them is looked at once.

The main statement is `getDocument_retry_law`: whatever the server answers, a request follows
`Tries`, its fuel never runs out, the pauses it records are exactly the backoffs of retries `0`
to `n - 1` for the `n` rate-limited tries it retried, never more than the cap, and it sends at
most `n + 2` GET requests and one POST.

A 200 whose check crashes also ends the request (`Tries.crashed`): the body is then neither the
answer nor refused.
-/

namespace RaceArchive

namespace Stub

@[simp] theorem Server.received_serve (s : Server) (req : Http.Request) :
    (s.serve req).2.received = s.received.push req := by
  unfold Server.serve
  dsimp only
  split
  · rfl
  · split
    · rfl
    · split <;> rfl

end Stub

namespace Http

@[simp] theorem Request.method_withCredentials (r : Request) :
    r.withCredentials.method = r.method := by
  unfold Request.withCredentials
  split
  · split <;> rfl
  · rfl

end Http

namespace Remote

open Json

/-- How many requests of a method the server has received. -/
def Wire.sent (w : Wire) (method : String) : Nat :=
  w.server.received.toList.countP fun q => q.method == method

/-- How many more pauses the wire allows. -/
def Wire.room (w : Wire) : Nat := w.pauseBudget - w.pauses.size

theorem roundTrip_run_of_crash {w : Wire} {c : Crash} (hc : w.crash = some c) (req : Http.Request) :
    (roundTrip req).run w = (.error c.message, w) := by
  simp only [roundTrip, StateT.run_bind, StateT.run_get, pure_bind, hc]
  rfl

theorem roundTrip_run_of_live {w : Wire} (hc : w.crash = none) (req : Http.Request) :
    ∃ q jar, q.method = req.method ∧ (roundTrip req).run w =
      ((w.server.serve q).1,
        { w with server := (w.server.serve q).2, session := { w.session with jar } }) := by
  refine ⟨?q, ?jar, ?method, ?run⟩
  case run =>
    simp only [roundTrip, StateT.run_bind, StateT.run_get, pure_bind, hc]
    rfl
  case method =>
    rw [Http.Request.method_withCredentials]
    split <;> rfl

/-- What a run of exchanges did to the wire: the settings and the pause budget stay, the pauses
taken are `paused`, and the server received at most `gets` more requests with method GET and at
most `posts` more with method POST. -/
structure Wire.Moved (w w' : Wire) (paused : List Int64) (gets posts : Nat) : Prop where
  settings : w'.session.settings = w.session.settings
  budget : w'.pauseBudget = w.pauseBudget
  pauses : w'.pauses.toList = w.pauses.toList ++ paused
  gets : w'.sent "GET" ≤ w.sent "GET" + gets
  posts : w'.sent "POST" ≤ w.sent "POST" + posts

namespace Wire.Moved

variable {w w₁ w₂ : Wire} {p₁ p₂ : List Int64} {g₁ g₂ q₁ q₂ : Nat}

theorem of_frame (hs : w₁.session.settings = w.session.settings)
    (hb : w₁.pauseBudget = w.pauseBudget) (hp : w₁.pauses = w.pauses) (hr : w₁.server = w.server) :
    Moved w w₁ [] 0 0 :=
  ⟨hs, hb, by rw [hp, List.append_nil], by simp [Wire.sent, hr], by simp [Wire.sent, hr]⟩

theorem refl (w : Wire) : Moved w w [] 0 0 := of_frame rfl rfl rfl rfl

theorem trans (h₁ : Moved w w₁ p₁ g₁ q₁) (h₂ : Moved w₁ w₂ p₂ g₂ q₂) :
    Moved w w₂ (p₁ ++ p₂) (g₁ + g₂) (q₁ + q₂) where
  settings := h₂.settings.trans h₁.settings
  budget := h₂.budget.trans h₁.budget
  pauses := by rw [h₂.pauses, h₁.pauses, List.append_assoc]
  gets := by have := h₁.gets; have := h₂.gets; omega
  posts := by have := h₁.posts; have := h₂.posts; omega

theorem size_pauses (h : Moved w w₁ p₁ g₁ q₁) :
    w₁.pauses.size = w.pauses.size + p₁.length := by
  simpa using congrArg List.length h.pauses

theorem room_eq (h : Moved w w₁ [] g₁ q₁) : w₁.room = w.room := by
  have := h.size_pauses
  have := h.budget
  simp only [List.length_nil, Nat.add_zero] at *
  simp only [room]
  omega

theorem mono (h : Moved w w₁ p₁ g₁ q₁) (hg : g₁ ≤ g₂) (hq : q₁ ≤ q₂) :
    Moved w w₁ p₁ g₂ q₂ where
  settings := h.settings
  budget := h.budget
  pauses := h.pauses
  gets := by have := h.gets; omega
  posts := by have := h.posts; omega

end Wire.Moved

open Wire

theorem Link.run_get_bind {α : Type} (f : Wire → Link α) (w : Wire) :
    ((get : Link Wire) >>= f).run w = (f w).run w := rfl

/-- An exchange that takes no pause and, whatever the wire, sends at most `gets` requests with
method GET and at most `posts` with method POST. -/
def Link.Moves {α : Type} (x : Link α) (gets posts : Nat) : Prop :=
  ∀ w, Moved w (x.run w).2 [] gets posts

namespace Link.Moves

variable {α β : Type} {x : Link α} {f : α → Link β} {g₁ g₂ q₁ q₂ : Nat}

theorem pure (a : α) : (Pure.pure a : Link α).Moves 0 0 := fun w => Moved.refl w

theorem get : (MonadState.get : Link Wire).Moves 0 0 := fun w => Moved.refl w

theorem bind (hx : x.Moves g₁ q₁) (hf : ∀ a, (f a).Moves g₂ q₂) :
    (x >>= f).Moves (g₁ + g₂) (q₁ + q₂) :=
  fun w => by rw [Link.run_bind]; exact (hx w).trans (hf _ _)

theorem mono (h : x.Moves g₁ q₁) (hg : g₁ ≤ g₂) (hq : q₁ ≤ q₂) :
    x.Moves g₂ q₂ :=
  fun w => (h w).mono hg hq

theorem moved {w w' : Wire} {a : α} (h : x.Moves g₁ q₁) (hx : x.run w = (a, w')) :
    Moved w w' [] g₁ q₁ := by
  have := h w
  rwa [hx] at this

end Link.Moves

theorem roundTrip_moves (req : Http.Request) :
    (roundTrip req).Moves (if req.method = "GET" then 1 else 0)
      (if req.method = "POST" then 1 else 0) := by
  intro w
  cases hc : w.crash with
  | some c => rw [roundTrip_run_of_crash hc]; exact (Moved.refl w).mono (by omega) (by omega)
  | none =>
    obtain ⟨q, jar, hq, hrun⟩ := roundTrip_run_of_live hc req
    rw [hrun]
    refine ⟨rfl, rfl, by simp, ?_, ?_⟩ <;>
      simp [Wire.sent, Array.toList_push, List.countP_append, hq]

theorem recordRateLimit_moves (h : Http.Headers) : (recordRateLimit h).Moves 0 0 :=
  fun _ => Moved.of_frame rfl rfl rfl rfl

theorem countLogin_moves :
    Link.Moves (modify fun w : Wire =>
      { w with session := { w.session with logins := w.session.logins + 1 } }) 0 0 :=
  fun _ => Moved.of_frame rfl rfl rfl rfl

theorem fetch_moves (endpoint : String) : (fetch endpoint).Moves 1 0 := by
  unfold fetch
  split
  · exact (Link.Moves.pure _).mono (by omega) le_rfl
  · refine (Link.Moves.bind (roundTrip_moves _) fun r => (?_ : Link.Moves _ 0 0)).mono ?_ ?_
    · split
      · exact Link.Moves.pure _
      · exact (Link.Moves.bind (recordRateLimit_moves _) fun _ => Link.Moves.pure _)
    all_goals simp

/-- A login sends at most one request, a POST. -/
theorem login_moves : login.Moves 0 1 := by
  unfold login
  refine (Link.Moves.bind Link.Moves.get fun w => (?_ : Link.Moves _ 0 1)).mono le_rfl le_rfl
  dsimp only
  split
  · exact (Link.Moves.pure _).mono le_rfl (by omega)
  · refine (Link.Moves.bind (roundTrip_moves _) fun r => (?_ : Link.Moves _ 0 0)).mono ?_ ?_
    · have counted := Link.Moves.bind countLogin_moves fun _ =>
        Link.Moves.pure (Except.ok () : Except Failure Unit)
      split
      · exact Link.Moves.pure _
      · split
        · exact Link.Moves.pure _
        · split
          · split
            · exact Link.Moves.pure _
            · exact counted
          · exact counted
    all_goals simp

theorem pause_run (d : Int64) (w : Wire) :
    (pause d).run w = if w.pauses.size ≥ w.pauseBudget
      then (.error (.cause (some .pauseRefused) w.pauseRefusal), w)
      else (.ok (), { w with pauses := w.pauses.push d }) := by
  simp only [pause, StateT.run_bind, StateT.run_get, pure_bind]
  split <;> rfl

theorem pause_ok {d : Int64} {w w' : Wire} (h : (pause d).run w = (.ok (), w')) :
    w'.room + 1 = w.room ∧ Moved w w' [d] 0 0 := by
  rw [pause_run] at h
  split at h
  · cases h
  · cases h
    refine ⟨?_, rfl, rfl, by simp, le_refl _, le_refl _⟩
    simp only [Wire.room, Array.size_push]
    omega

theorem pause_error {d : Int64} {w w' : Wire} {f : Failure} (h : (pause d).run w = (.error f, w')) :
    w' = w := by
  rw [pause_run] at h
  split at h
  · cases h; rfl
  · cases h

/-- The tries of a request for `endpoint` by a client with settings `s`: from wire `w`, after `k`
rate-limited tries were retried and having logged in again (`relogged`) or not, the request ends
with `r` on wire `w'` after `n` retried rate-limited tries in all. Each constructor is one way the
next try can go. -/
inductive Tries (s : Settings) (endpoint : String) :
    Nat → Bool → Wire → Except Failure ByteArray → Nat → Wire → Prop
  /-- An exchange that fails on its way ends the request with its failure, with no retry. -/
  | broken {k relogged w f w'} : (fetch endpoint).run w = (.error f, w') →
      Tries s endpoint k relogged w (.error f) k w'
  /-- A 200 whose body is taken as a document is the answer. -/
  | answered {k relogged w body w'} : (fetch endpoint).run w = (.ok (200, body), w') →
      checkDocument body = .ok true → Tries s endpoint k relogged w (.ok body) k w'
  /-- A 200 whose body is not taken is refused as not JSON. -/
  | malformed {k relogged w body w'} : (fetch endpoint).run w = (.ok (200, body), w') →
      checkDocument body = .ok false →
      Tries s endpoint k relogged w
        (.error (responseFailure endpoint (.plain "response is not valid JSON"))) k w'
  /-- A 200 whose check crashes ends the run with the crash. -/
  | crashed {k relogged w body w' c} : (fetch endpoint).run w = (.ok (200, body), w') →
      checkDocument body = .error c →
      Tries s endpoint k relogged w (.error (.plain c.message)) k { w' with crash := some c }
  /-- A 429 once the cap of retries, if there is one, is reached. -/
  | exhausted {k : Nat} {relogged w body w'} : (fetch endpoint).run w = (.ok (429, body), w') →
      0 < s.maxRetries → s.maxRetries ≤ (k : Int) →
      Tries s endpoint k relogged w
        (.error (.wrap (some .serviceStatus) ("API error 429 from " ++ endpoint ++ ": ") ""
          (.cause (some .retriesExhausted) "rate limit retries exhausted"))) k w'
  /-- A 429 below the cap whose pause is refused. -/
  | stalled {k : Nat} {relogged w body w₁ f w'} :
      (fetch endpoint).run w = (.ok (429, body), w₁) →
      (0 < s.maxRetries → (k : Int) < s.maxRetries) →
      (pause (s.backoff k)).run w₁ = (.error f, w') →
      Tries s endpoint k relogged w (.error f) k w'
  /-- A 429 below the cap pauses for the backoff of `k` and tries again. -/
  | limited {k : Nat} {relogged w body w₁ w₂ r n w'} :
      (fetch endpoint).run w = (.ok (429, body), w₁) →
      (0 < s.maxRetries → (k : Int) < s.maxRetries) →
      (pause (s.backoff k)).run w₁ = (.ok (), w₂) →
      Tries s endpoint (k + 1) relogged w₂ r n w' → Tries s endpoint k relogged w r n w'
  /-- A 401 after logging in again is a failure. -/
  | expiredAgain {k w body w'} : (fetch endpoint).run w = (.ok (401, body), w') →
      Tries s endpoint k true w (.error (statusFailure 401 endpoint body)) k w'
  /-- A first 401 whose login fails ends the request with that failure. -/
  | reloginFailed {k w body w₁ f w'} : (fetch endpoint).run w = (.ok (401, body), w₁) →
      login.run w₁ = (.error f, w') →
      Tries s endpoint k false w
        (.error (.within ("logging in again after 401 from " ++ redact endpoint) f)) k w'
  /-- A first 401 logs in again and tries again. -/
  | relogin {k w body w₁ w₂ r n w'} : (fetch endpoint).run w = (.ok (401, body), w₁) →
      login.run w₁ = (.ok (), w₂) → Tries s endpoint k true w₂ r n w' →
      Tries s endpoint k false w r n w'
  /-- Any other status is a failure that names it. -/
  | refused {k relogged w status body w'} : (fetch endpoint).run w = (.ok (status, body), w') →
      status ≠ 200 → status ≠ 429 → status ≠ 401 →
      Tries s endpoint k relogged w (.error (statusFailure status endpoint body)) k w'

namespace Tries

variable {s : Settings} {endpoint : String} {k n : Nat} {relogged : Bool} {w w' : Wire}
  {r : Except Failure ByteArray}

/-- What a request's tries do to the wire, from `k` retried rate-limited tries on: one pause for
each further one, of the backoff of its number, never past the cap; one GET for each try, and a
POST for the login again, if there is one. -/
def Footprint (s : Settings) (k : Nat) (relogged : Bool) (w : Wire) (n : Nat) (w' : Wire) : Prop :=
  ∃ d, n = k + d ∧
    Moved w w' ((List.range' k d).map fun i : Nat => s.backoff i) (d + if relogged then 1 else 2)
      (if relogged then 0 else 1) ∧
    (0 < s.maxRetries → (k : Int) ≤ s.maxRetries → (n : Int) ≤ s.maxRetries)

theorem Footprint.last {q : Nat} (h : Moved w w' [] 1 q) (hq : q ≤ if relogged then 0 else 1) :
    Footprint s k relogged w k w' :=
  ⟨0, rfl, h.mono (by split <;> omega) hq, fun _ hk => hk⟩

theorem footprint (h : Tries s endpoint k relogged w r n w') : Footprint s k relogged w n w' := by
  induction h with
  | broken hf | answered hf | malformed hf | exhausted hf | expiredAgain hf | refused hf =>
    exact Footprint.last ((fetch_moves endpoint).moved hf) (by split <;> omega)
  | @crashed _ _ _ _ w₁ c hf _ =>
    have hcrash : Moved w₁ { w₁ with crash := some c } [] 0 0 := Moved.of_frame rfl rfl rfl rfl
    exact Footprint.last (((fetch_moves endpoint).moved hf).trans hcrash) (by split <;> omega)
  | stalled hf _ hp =>
    rw [← pause_error hp] at hf
    exact Footprint.last ((fetch_moves endpoint).moved hf) (by split <;> omega)
  | reloginFailed hf hl =>
    exact Footprint.last (((fetch_moves endpoint).moved hf).trans (login_moves.moved hl)) le_rfl
  | limited hf hcap hp _ ih =>
    obtain ⟨d, rfl, hmoved, hmax⟩ := ih
    obtain ⟨-, hpm⟩ := pause_ok hp
    refine ⟨d + 1, by omega, ?_, fun hpos _ => hmax hpos (by have := hcap hpos; omega)⟩
    rw [List.range'_succ, List.map_cons]
    exact ((((fetch_moves endpoint).moved hf).trans hpm).trans hmoved).mono (by omega) (by omega)
  | relogin hf hl _ ih =>
    obtain ⟨d, rfl, hmoved, hmax⟩ := ih
    have hmoved' := (((fetch_moves endpoint).moved hf).trans (login_moves.moved hl)).trans hmoved
    exact ⟨d, rfl, hmoved'.mono (by simp; omega) (by simp), hmax⟩

end Tries

/-- The fuel suffices: each retried rate-limited try spends a pause of the budget and the login
again comes at most once, so the tries end before the fuel does. -/
theorem attempt_tries (endpoint : String) (s : Settings) :
    ∀ (fuel k : Nat) (relogged : Bool) (w : Wire), w.session.settings = s →
      w.room + (if relogged then 1 else 2) ≤ fuel →
      ∃ n, Tries s endpoint k relogged w
        ((getDocument.attempt endpoint k relogged fuel).run w).1 n
        ((getDocument.attempt endpoint k relogged fuel).run w).2 := by
  intro fuel
  induction fuel with
  | zero => intro k relogged w _ hfuel; split at hfuel <;> omega
  | succ fuel ih =>
    intro k relogged w hs hfuel
    rw [getDocument.attempt, Link.run_bind]
    rcases hf : (fetch endpoint).run w with ⟨_ | ⟨status, body⟩, w₁⟩
    · exact ⟨k, .broken hf⟩
    have hm₁ := (fetch_moves endpoint).moved hf
    have hs₁ : w₁.session.settings = s := hm₁.settings.trans hs
    rw [← hm₁.room_eq] at hfuel
    dsimp only
    rw [Link.run_get_bind]
    simp only [hs₁, beq_iff_eq]
    by_cases h200 : status = 200
    · subst h200
      rcases hc : checkDocument body with c | _ | _
      · exact ⟨k, .crashed hf hc⟩
      · exact ⟨k, .malformed hf hc⟩
      · exact ⟨k, .answered hf hc⟩
    rw [if_neg h200]
    by_cases h429 : status = 429
    · subst h429
      rw [if_pos rfl]
      by_cases hcap : 0 < s.maxRetries ∧ s.maxRetries ≤ (k : Int)
      · rw [if_pos (by simpa using hcap)]
        exact ⟨k, .exhausted hf hcap.1 hcap.2⟩
      · rw [if_neg (by simpa using hcap)]
        have hlt : 0 < s.maxRetries → (k : Int) < s.maxRetries := fun hpos =>
          lt_of_not_ge fun hge => hcap ⟨hpos, hge⟩
        rw [Link.run_bind]
        rcases hp : (pause (s.backoff k)).run w₁ with ⟨_ | ⟨⟩, w₂⟩
        · exact ⟨k, .stalled hf hlt hp⟩
        · obtain ⟨hroom, hm₂⟩ := pause_ok hp
          have hk : ((k : Int) + 1) = ((k + 1 : Nat) : Int) := by push_cast; rfl
          obtain ⟨n, hn⟩ := ih (k + 1) relogged w₂ (hm₂.settings.trans hs₁) (by omega)
          dsimp only
          rw [hk]
          exact ⟨n, .limited hf hlt hp hn⟩
    rw [if_neg h429]
    by_cases h401 : status = 401
    · subst h401
      rw [if_pos rfl]
      cases relogged with
      | true => exact ⟨k, .expiredAgain hf⟩
      | false =>
        rw [if_neg Bool.false_ne_true, Link.run_bind]
        rcases hl : login.run w₁ with ⟨_ | ⟨⟩, w₂⟩
        · exact ⟨k, .reloginFailed hf hl⟩
        · have hm₂ := login_moves.moved hl
          rw [← hm₂.room_eq] at hfuel
          obtain ⟨n, hn⟩ := ih k true w₂ (hm₂.settings.trans hs₁) (by simpa using hfuel)
          exact ⟨n, .relogin hf hl hn⟩
    · rw [if_neg h401]
      exact ⟨k, .refused hf h200 h429 h401⟩

/-- The retry law of a document request: whatever the server answers, the request's tries follow
`Tries` from no retry and no login again, and end after `n` retried rate-limited tries, no more
than the cap when there is one. The pauses it records are exactly the backoffs of retries `0` to
`n - 1`, in order; it sends at most `n + 2` GET requests and at most one POST, the login again. -/
theorem getDocument_retry_law (url : String) (params : List (String × List String)) (w : Wire) :
    let s := w.session.settings
    let run := (getDocument url params).run w
    ∃ n, Tries s (withParams url params) 0 false w run.1 n run.2 ∧
      Moved w run.2 ((List.range n).map fun i : Nat => s.backoff i) (n + 2) 1 ∧
      (0 < s.maxRetries → (n : Int) ≤ s.maxRetries) := by
  intro s run
  have hrun :
      run = (getDocument.attempt (withParams url params) (0 : Nat) false (w.room + 2)).run w := rfl
  rw [hrun]
  obtain ⟨n, hn⟩ := attempt_tries (withParams url params) s (w.room + 2) 0 false w rfl (by simp)
  obtain ⟨d, hd, hmoved, hmax⟩ := hn.footprint
  rw [Nat.zero_add] at hd
  subst hd
  refine ⟨n, hn, ?_, fun hpos => by simpa using hmax hpos (by simp; omega)⟩
  simpa [List.range_eq_range'] using hmoved

/-! ## Answered requests -/

theorem getDocument_answered {url : String} {params : List (String × List String)} {w w' : Wire}
    {body : ByteArray} (hf : (fetch (withParams url params)).run w = (.ok (200, body), w'))
    (hc : checkDocument body = .ok true) : (getDocument url params).run w = (.ok body, w') := by
  have hrun : (getDocument url params).run w =
      (getDocument.attempt (withParams url params) (0 : Nat) false (w.room + 2)).run w := rfl
  rw [hrun, getDocument.attempt, Link.run_bind, hf]
  dsimp only
  rw [Link.run_get_bind]
  simp only [beq_self_eq_true, if_true, hc]
  rfl

/-- An indirect request whose first document links to a second, which answers, ends with the
second document. -/
theorem getIndirect_answered {path url link : String} {params : List (String × List String)}
    {w w₁ w₂ : Wire} {first body : ByteArray} (hurl : w.session.settings.baseUrl ++ path = url)
    (h₁ : (getDocument url params).run w = (.ok first, w₁))
    (hlink : decode (Reader.record [textField "link" "Link" id fun _ v => v]) "" first = .ok link)
    (hne : link.isEmpty = false) (h₂ : (getDocument link []).run w₁ = (.ok body, w₂)) :
    (getIndirect path params).run w = (.ok body, w₂) := by
  rw [getIndirect, Link.run_get_bind, Link.run_bind, hurl, h₁]
  dsimp only
  rw [hlink]
  simp only [hne, Bool.false_eq_true, if_false]
  exact h₂

end Remote

end RaceArchive
