/-
Banck.Api.Progress — every request that came to the server is answered.

An act of a handling that need not wait brings it one stage further, with
one exception: a handler that issues a session draws tokens until one is
unused. So if the tokens that are drawn are not all taken, a server that
serves what it may (`Server.Serves`) does so five times for each request at
most, in whatever order and whatever arrives meanwhile, and if it can do no
more then every request has been answered (`requests_are_answered`): nobody
waits for the lock for ever, and nobody holds it and waits.
-/
import Banck.Api.ConcurrentLogins
import Banck.Api.Serial

namespace Banck.Api

open Lib Mut Machine

/-! ## How much is left to do -/

def Event.isAct : Event → Bool
  | arrive _ => false
  | act _ _ => true

/-- The acts that a handler has before it at most. -/
def Stage.remaining : Stage → Nat
  | arrived => 5
  | waiting => 4
  | checked _ => 3
  | counted _ => 2
  | issuing => 1
  | answered _ => 0

namespace Server

/-- The acts that are left for all handlings. -/
def remaining (server : Server) : Nat :=
  (server.handlings.map fun handling => handling.stage.remaining).sum

/-- A request arrives, or a handling that has not answered and need not wait
does its next act; if it issues a session, not all tokens that it draws are
taken. -/
def Serves (server : Server) : Event → Prop
  | .arrive _ => True
  | .act i env =>
      ∃ handling, server.handlings[i]? = some handling ∧ ¬ server.Blocks i handling ∧
        handling.stage.remaining ≠ 0 ∧
        (handling.stage = .issuing →
          ∃ token ∈ env.drawnTokens, server.state.sessions.sessionsByToken.contains token = false)

theorem remaining_eq_one {stage : Stage} : stage.remaining = 1 ↔ stage = .issuing := by
  cases stage <;> simp [Stage.remaining]

instance (server : Server) : ∀ event, Decidable (server.Serves event)
  | .arrive _ => inferInstanceAs (Decidable True)
  | .act i env =>
      match hfound : server.handlings[i]? with
      | none => .isFalse fun ⟨_, hsome, _⟩ => by rw [hfound] at hsome; cases hsome
      | some handling =>
          decidable_of_iff (¬ server.Blocks i handling ∧ handling.stage.remaining ≠ 0 ∧
            (handling.stage.remaining = 1 → ∃ token ∈ env.drawnTokens,
              server.state.sessions.sessionsByToken.contains token = false)) <| by
            simp only [Serves, hfound, Option.some.injEq, exists_eq_left', remaining_eq_one]

end Server

/-! ## One act -/

section Acts

variable {argon2 : Argon2} {env : Env} {handling handling' : Handling} {state state' : ApiState}

/-- A session is issued to somebody. -/
def Handling.IsGranted (handling : Handling) : Prop :=
  handling.stage = .issuing → handling.session ≠ none

theorem Act.granted (act : Act argon2 env handling state handling' state')
    (h : handling.IsGranted) : handling'.IsGranted := by
  cases act with
  | idle | drawing => exact h
  | bootstrapped | loggedIn => exact fun _ => Option.some_ne_none _
  | health | bootstrapFailed | allowed | throttled | opened | turnedAway | accepted | refused
  | loggedOut | unrecorded | worked | countedSuccess | countedFailure | refusalRecorded
  | issued => exact nofun

/-- If not all drawn tokens are taken, a session is issued. -/
theorem ApiSessionStore.issue_unused (session : Session) (now : Nat) {drawn : List String}
    {store : ApiSessionStore}
    (h : ∃ token ∈ drawn, store.sessionsByToken.contains token = false) :
    ∃ issued after, issue session now drawn store = (.ok issued, after) := by
  obtain ⟨token, htoken, hunused⟩ := h
  have hpruned : (store.removeExpired now).sessionsByToken.contains token = false := by
    rw [OrdMap.contains_eq_isSome, Option.isSome_eq_false_iff, Option.isNone_iff_eq_none]
      at hunused ⊢
    rw [removeExpired, OrdMap.get_retain, hunused]
    rfl
  have hfound : ((store.removeExpired now).unusedToken drawn).isSome = true := by
    rw [unusedToken, List.find?_isSome]
    exact ⟨token, htoken, by rw [hpruned]; rfl⟩
  obtain ⟨accessToken, haccess⟩ := Option.isSome_iff_exists.mp hfound
  simp only [issue, bind_run, modify_run, get_run, haccess, okOr_some_run]
  exact ⟨_, _, rfl⟩

theorem Handling.Shows.remaining_le {outcome : Outcome} (h : handling.Shows outcome) :
    handling.stage.remaining ≤ 1 := by
  cases outcome with
  | answer answer =>
    rw [show handling.stage = .answered answer from h]
    exact Nat.zero_le 1
  | grant session =>
    rcases h.2 with h | ⟨_, h⟩ <;> rw [h] <;> simp [Stage.remaining]

theorem Handling.remaining_le_of_turn {turn : Turn} (hturn : handling.turn env = some turn)
    (hchecked : handling.Checked argon2 state.app) :
    (handling.act argon2 env state).1.stage.remaining ≤ 1 :=
  Shows.remaining_le (act_turn hturn hchecked).2.2

theorem Act.remaining_enter {request : Request} {session : Option Session}
    (act : Act argon2 env ⟨request, session, .arrived⟩ state handling' state') :
    handling'.stage.remaining < 5 := by
  cases act with
  | idle _ _ rests => exact absurd rfl rests.1
  | unrecorded progress => rcases progress with h | ⟨_, h⟩ <;> cases h
  | health | bootstrapFailed | throttled | turnedAway => exact Nat.succ_pos 4
  | bootstrapped => exact (by decide : 1 < 5)
  | allowed | opened => exact Nat.lt_succ_self 4

theorem Act.remaining_proceed {request : Request} {session : Option Session}
    (act : Act argon2 env ⟨request, session, .waiting⟩ state handling' state')
    (hready : Handling.IsReady ⟨request, session, .waiting⟩) : handling'.stage.remaining < 4 := by
  cases act with
  | idle _ _ rests =>
    obtain ⟨hlogin, hnone⟩ := rests.2 rfl
    rcases hready rfl with ⟨payload, hpayload⟩ | ⟨hsession, hheaders⟩
    · exact absurd hpayload (hlogin payload)
    · exact absurd hnone (not_or.mpr ⟨hsession, hheaders⟩)
  | accepted | refused => exact Nat.lt_succ_self 3
  | loggedOut | unrecorded | worked => exact Nat.succ_pos 3

/-- An act that need not wait brings the handler further. -/
theorem Handling.remaining_act (hready : handling.IsReady)
    (hchecked : handling.Checked argon2 state.app) (hgranted : handling.IsGranted)
    (hopen : handling.stage.remaining ≠ 0)
    (hdraws : handling.stage = .issuing →
      ∃ token ∈ env.drawnTokens, state.sessions.sessionsByToken.contains token = false) :
    (handling.act argon2 env state).1.stage.remaining < handling.stage.remaining := by
  obtain ⟨request, session, stage⟩ := handling
  cases stage with
  | answered => exact absurd rfl hopen
  | arrived => exact (enter_spec argon2 env request session state).remaining_enter
  | waiting => exact (proceed_spec argon2 env request session state).remaining_proceed hready
  | checked refusal =>
    obtain ⟨payload, hrequest, -⟩ := hchecked refusal (.inl rfl)
    obtain rfl : request = .login payload := hrequest
    cases refusal <;> exact Nat.lt_succ_self 2
  | counted refusal =>
    obtain ⟨payload, hrequest, -⟩ := hchecked refusal (.inr rfl)
    obtain rfl : request = .login payload := hrequest
    have hturn : turn ⟨.login payload, session, .counted refusal⟩ env =
      some (.login payload env) := rfl
    exact Nat.lt_succ_of_le (remaining_le_of_turn hturn hchecked)
  | issuing =>
    obtain ⟨found, hsession⟩ := Option.ne_none_iff_exists'.mp (hgranted rfl)
    obtain rfl : session = some found := hsession
    obtain ⟨issued, after, hissue⟩ := ApiSessionStore.issue_unused found env.issuedAt (hdraws rfl)
    simp only [act, issue, hissue]
    exact Nat.zero_lt_one

end Acts

/-! ## Runs -/

namespace Server

variable {argon2 : Argon2} {server : Server} {event : Event} {told : List (Nat × Turn)}

theorem sum_map_set {α : Type} {f : α → Nat} {a b : α} (h : f b < f a) :
    ∀ {l : List α} {i : Nat}, l[i]? = some a → ((l.set i b).map f).sum < (l.map f).sum
  | [], _, hfound => by cases hfound
  | c :: rest, 0, hfound => by
      obtain rfl : c = a := Option.some.inj hfound
      simpa using h
  | c :: rest, i + 1, hfound => by
      have hrest := sum_map_set h (l := rest) (i := i) hfound
      simpa using hrest

/-- Sessions are issued to somebody, and the rest of what is known. -/
structure Steady (argon2 : Argon2) (server : Server) : Prop where
  serial : ∃ told, server.Serial argon2 told
  granted : ∀ (i : Nat) (handling : Handling), server.handlings[i]? = some handling →
    handling.IsGranted

theorem steady_new : (new AppState.new).Steady argon2 :=
  ⟨⟨[], serial_new⟩, fun i handling h => by simp [new] at h⟩

theorem Steady.step (h : server.Steady argon2) (event : Event) :
    (step argon2 server event).2.Steady argon2 := by
  obtain ⟨told, hserial⟩ := h.serial
  refine ⟨⟨_, serial_step hserial event⟩, fun i handling hfound => ?_⟩
  rcases (step_moves argon2 server event).handling_cases hfound with
    hbefore | ⟨request, -, rfl⟩ | ⟨env, before, -, hbefore, -, act⟩
  · exact h.granted i handling hbefore
  · exact nofun
  · exact act.granted (h.granted i before hbefore)

theorem steady_after (events : List Event) : (after argon2 events).Steady argon2 :=
  final_invariant (Server.step argon2) (fun _ event h => h.step event) events _ steady_new

/-- What is served is brought further, and what arrives has five acts before
it. -/
theorem Steady.acts_step (h : server.Steady argon2) (hserves : server.Serves event) :
    (if event.isAct then 1 else 0) + (Server.step argon2 server event).2.remaining
        + 5 * server.handlings.length ≤
      server.remaining + 5 * (Server.step argon2 server event).2.handlings.length := by
  obtain ⟨told, hserial⟩ := h.serial
  cases event with
  | arrive request =>
    simp [Server.step, remaining, Event.isAct, Stage.remaining]
    omega
  | act i env =>
    obtain ⟨handling, hfound, hfree, hopen, hdraws⟩ := hserves
    have hlt : (Server.step argon2 server (.act i env)).2.remaining < server.remaining := by
      rw [step_act argon2 env hfound hfree]
      exact sum_map_set (f := fun handling => handling.stage.remaining)
        (Handling.remaining_act (hserial.logged.ready i handling hfound).1
          (hserial.checked i handling hfound) (h.granted i handling hfound) hopen hdraws) hfound
    have hlength : (Server.step argon2 server (.act i env)).2.handlings.length =
        server.handlings.length := by
      rw [step_act argon2 env hfound hfree]
      exact List.length_set
    simp only [Event.isAct, if_true]
    omega

theorem Steady.acts_le (more : List Event) :
    ∀ {server : Server}, server.Steady argon2 → Guarded (Server.step argon2) Serves server more →
      more.countP Event.isAct + (final (Server.step argon2) server more).remaining
          + 5 * server.handlings.length ≤
        server.remaining + 5 * (final (Server.step argon2) server more).handlings.length := by
  induction more with
  | nil =>
    intro server _ _
    simp
  | cons event rest ih =>
    intro server h hguarded
    have hstep := h.acts_step hguarded.1
    have hrest := ih (h.step event) hguarded.2
    rw [List.countP_cons, final_cons]
    omega

theorem remaining_le (server : Server) : server.remaining ≤ 5 * server.handlings.length := by
  unfold remaining
  induction server.handlings with
  | nil => simp
  | cons handling rest ih =>
    have hle : handling.stage.remaining ≤ 5 := by
      cases handling.stage <;> simp [Stage.remaining]
    simp only [List.map_cons, List.sum_cons, List.length_cons]
    omega

/-- If not all have answered, there is one that need not wait. -/
theorem Steady.serves (h : server.Steady argon2) {j : Nat} {unanswered : Handling}
    (hfound : server.handlings[j]? = some unanswered)
    (hopen : unanswered.stage.remaining ≠ 0) :
    ∃ i, ∀ env : Env, (∃ token ∈ env.drawnTokens,
      server.state.sessions.sessionsByToken.contains token = false) →
        server.Serves (.act i env) := by
  obtain ⟨told, hserial⟩ := h.serial
  cases hholder : server.holder with
  | none =>
    exact ⟨j, fun env hdraws => ⟨unanswered, hfound, fun hblocks => hblocks.2.1 hholder, hopen,
      fun _ => hdraws⟩⟩
  | some i =>
    obtain ⟨handling, hhandling, hholds⟩ := (hserial.logged.exclusive i).mp hholder
    refine ⟨i, fun env hdraws => ⟨handling, hhandling, fun hblocks => hblocks.2.2 hholder, ?_,
      fun _ => hdraws⟩⟩
    cases hstage : handling.stage with
    | checked | counted | issuing => simp [Stage.remaining]
    | arrived | waiting | answered => rw [hstage] at hholds; cases hholds

end Server

/-! ## The theorem -/

open Server

/-- However a server serves what it has, and whatever comes meanwhile: it does
so five times for each request at most, and at any time every request has
been answered, or there is a handling with which it can go on, given tokens
that are not all taken. -/
theorem requests_are_answered (argon2 : Argon2) (events more : List Event)
    (h : Guarded (Server.step argon2) Server.Serves (after argon2 events) more) :
    let server := after argon2 (events ++ more)
    more.countP Event.isAct ≤ 5 * server.handlings.length ∧
    ((∀ handling ∈ server.handlings, ∃ answer, handling.stage = .answered answer) ∨
      ∃ i, ∀ env : Env, (∃ token ∈ env.drawnTokens,
        server.state.sessions.sessionsByToken.contains token = false) →
          server.Serves (.act i env)) := by
  intro server
  have hacts : more.countP Event.isAct ≤ 5 * server.handlings.length := by
    have hsteady : (after argon2 events).Steady argon2 := steady_after events
    have hle := hsteady.acts_le more h
    rw [show final (Server.step argon2) (after argon2 events) more = server from
      (final_append _ events more _).symm] at hle
    have hstart := remaining_le (after argon2 events)
    omega
  refine ⟨hacts, ?_⟩
  by_cases hall : ∀ handling ∈ server.handlings, ∃ answer, handling.stage = .answered answer
  · exact .inl hall
  · right
    push Not at hall
    obtain ⟨unanswered, hmem, hnot⟩ := hall
    obtain ⟨j, hfound⟩ := List.mem_iff_getElem?.mp hmem
    refine (steady_after (events ++ more)).serves hfound ?_
    cases hstage : unanswered.stage with
    | answered answer => exact absurd hstage (hnot answer)
    | arrived | waiting | checked | counted | issuing => simp [Stage.remaining]

/-- A session is about to be issued to the first administrator, and a login
waits for the lock. -/
def twoUnderWay : List Event :=
  [.arrive (.bootstrapAdmin ⟨1, "root", "correct-password"⟩),
   .arrive (.login ⟨"root", "correct-password"⟩), .act 0 guessEnv, .act 1 guessEnv]

/-- The second session cannot have the token of the first. -/
def servedOut : List Event :=
  .act 0 guessEnv ::
    List.replicate 4 (.act 1 { guessEnv with drawnTokens := ["token", "other"] })

theorem requests_are_answered_two :
    (∀ handling ∈ (after sampleArgon2 twoUnderWay).handlings[1]?,
      (after sampleArgon2 twoUnderWay).Blocks 1 handling) ∧
    let server := after sampleArgon2 (twoUnderWay ++ servedOut)
    servedOut.countP Event.isAct ≤ 5 * server.handlings.length ∧
    ∀ handling ∈ server.handlings, ∃ answer, handling.stage = .answered answer := by
  have hserves : Guarded (Server.step sampleArgon2) Server.Serves
      (after sampleArgon2 twoUnderWay) servedOut := by decide +kernel
  obtain ⟨hacts, hserved⟩ := requests_are_answered sampleArgon2 twoUnderWay servedOut hserves
  refine ⟨by decide +kernel, hacts, hserved.resolve_right ?_⟩
  -- nobody is left who could go on
  rintro ⟨i, hmore⟩
  obtain ⟨handling, hfound, -, hleft, -⟩ :=
    hmore { guessEnv with drawnTokens := ["unused"] } (by decide +kernel)
  have hnone : ∀ handling ∈ (after sampleArgon2 (twoUnderWay ++ servedOut)).handlings,
      handling.stage.remaining = 0 := by decide +kernel
  exact hleft (hnone handling (List.mem_of_getElem? hfound))

end Banck.Api
