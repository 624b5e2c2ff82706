/-
  **Too many failures lock an account.**  Bad PINs and rejected TOTP codes share one
  counter per account.  What happens to an account is a run of `CallStep`s, so it is enough
  that each of them keeps the counter up with the trace and the keys away from an account
  that is locked (`Guarded`).

  PIN attempts that are counted lead to the removal of all keys, up to the point where the
  `u32` of the counter wraps around.  For TOTP codes this needs that no token is acquired in
  between: with one, the counter is reset before the second factor is asked for.
-/
import Himmelblau.DaemonViews
import Himmelblau.Tally

namespace Himmelblau

open Interface Db LockProgram FunctionBody Entra Relation Tally

variable {W : Type}

/-! ## 1. Views of a locked account -/

namespace Entra

def View.Absent (v : View) : Prop := ∀ t, t ≠ .totp → v.tags t = none

namespace View.Absent

variable {v : View}

theorem key_eq_none (h : v.Absent) : v.key = none := by
  unfold View.key
  rw [h .hello (by decide), h .decoupled (by decide)]
  rfl

theorem not_holds (h : v.Absent) {own : Option LoadableMsHelloKey} {k : LoadableMsHelloKey} :
    ¬ v.Holds own k := by
  rintro (⟨kt, hk⟩ | ⟨-, hk | hk⟩)
  · rw [h.key_eq_none] at hk
    cases hk
  · rw [h .hello (by decide)] at hk
    cases hk
  · rw [h .decoupled (by decide)] at hk
    cases hk

theorem put_none (h : v.Absent) (t : HelloTag) : (v.put t none).Absent := by
  intro t' ht'
  unfold View.put
  by_cases heq : t' = t
  · simp [heq]
  · simp only [Function.update_of_ne heq]
    exact h t' ht'

theorem put_totp (h : v.Absent) (value : Option StoredKey) : (v.put .totp value).Absent :=
  fun t ht => (Function.update_of_ne ht _ _).trans (h t ht)

theorem lock (v : View) : v.lock.Absent := fun _ ht => if_neg ht

variable {a : String}

theorem bad {limit : UInt32} (h : v.Absent) : (v.bad a limit).Absent := by
  unfold View.bad
  dsimp only
  split
  · exact View.Absent.lock _
  · exact h

theorem bad_of_lt {limit : UInt32} (h : limit < v.count + 1) : (v.bad a limit).Absent := by
  unfold View.bad
  dsimp only
  rw [if_pos h]
  exact View.Absent.lock _

theorem clear (h : v.Absent) : v.clear.Absent := by
  intro t ht
  unfold View.clear
  dsimp only
  split
  · exact h t ht
  · rfl

end View.Absent

theorem View.bad_events (v : View) (a : String) (limit : UInt32) :
    (v.bad a limit).events = .counted a (v.count + 1) :: v.events := by
  unfold View.bad
  dsimp only
  split <;> rfl

theorem View.bad_count (v : View) (a : String) (limit : UInt32) :
    (v.bad a limit).count = v.count + 1 := by
  unfold View.bad
  dsimp only
  split <;> rfl

/-! ## 2. What the policies have in common -/

theorem Event.failed_of_quiet {e : Event} (he : e.quiet = true) : e.failed = false := by
  cases e with
  | pinTried b loaded => cases loaded with
    | true => rfl
    | false => cases he
  | codeTried b accepted => cases accepted with
    | true => rfl
    | false => cases he
  | _ => rfl

/-- The policy is about attempts that are counted, and in a trace of `good` events the
    counter is only reset where the policy clears the failures, and never wraps around. -/
structure Fits (a : String) (p : Policy Event) (good : Event → Prop) : Prop where
  failed : ∀ e, p.fails e = true → e.failed = true
  unlocks : p.unlocks (.helloKeyStored a) = true
  resets : ∀ e es, e.allowsReset = true → (∀ x ∈ e :: es, good x) →
    p.failures (.reset a :: e :: es) = 0
  wraps : ¬ good (.counted a 0)

def Guarded (p : Policy Event) (good : Event → Prop) (limit : UInt32) (v : View) : Prop :=
  (∀ e ∈ v.events, good e) → p.Enforced limit.toNat v.events v.count.toNat v.Absent

section Guarded

variable {a : String} {p : Policy Event} {good : Event → Prop} {limit : UInt32}
  {Seals : SealedUnder} {own : Option LoadableMsHelloKey} {v v' : View}

theorem Fits.fails_eq_false (hp : Fits a p good) {e : Event} (he : e.failed = false) :
    p.fails e = false := by
  cases hfails : p.fails e with
  | false => rfl
  | true => exact (hp.failed e hfails).symm.trans he

theorem Fits.toNat_count (hp : Fits a p good) {n : UInt32} (h : good (.counted a (n + 1))) :
    (n + 1).toNat = n.toNat + 1 := by
  have hne : n + 1 ≠ 0 := fun hzero => hp.wraps (hzero ▸ h)
  have hlt := n.toNat_lt
  have hnat : (n + 1).toNat ≠ 0 := fun hzero => hne (UInt32.toNat_inj.mp hzero)
  rw [UInt32.toNat_add] at hnat ⊢
  simp only [UInt32.reduceToNat] at hnat ⊢
  omega

theorem Guarded.log (hp : Fits a p good) (h : Guarded p good limit v) {e : Event}
    (he : e.failed = false) : Guarded p good limit (v.log e) := fun hgood =>
  (h fun x hx => hgood x (List.mem_cons_of_mem _ hx)).other (hp.fails_eq_false he) id

theorem Guarded.congr (h : Guarded p good limit v) (hevents : v'.events = v.events)
    (hcount : v'.count = v.count) (habsent : v.Absent → v'.Absent) : Guarded p good limit v' := by
  intro hgood
  rw [hevents] at hgood ⊢
  rw [hcount]
  exact (h hgood).mono habsent

theorem shut_of_limit_lt (hp : Fits a p good) (hgood : good (.counted a (v.count + 1)))
    (h : limit.toNat < v.count.toNat + 1) : (v.bad a limit).Absent := by
  refine View.Absent.bad_of_lt (UInt32.lt_iff_toNat_lt.mpr ?_)
  rw [hp.toNat_count hgood]
  exact h

theorem Guarded.bad (hp : Fits a p good) (h : Guarded p good limit v) :
    Guarded p good limit (v.bad a limit) := by
  intro hgood
  rw [View.bad_events] at hgood ⊢
  obtain ⟨hcounted, hgood⟩ := List.forall_mem_cons.mp hgood
  rw [View.bad_count, hp.toNat_count hcounted]
  exact (h hgood).failed View.Absent.bad (shut_of_limit_lt hp hcounted)

theorem Guarded.failed (hp : Fits a p good) (h : Guarded p good limit v) (e : Event) :
    Guarded p good limit ((v.log e).bad a limit) := by
  intro hgood
  rw [View.bad_events] at hgood ⊢
  obtain ⟨hcounted, hgood⟩ := List.forall_mem_cons.mp hgood
  rw [View.bad_count, hp.toNat_count hcounted]
  have hattempt : p.Enforced limit.toNat (e :: v.events) (v.count.toNat + 1)
      ((v.log e).bad a limit).Absent :=
    (h (List.forall_mem_cons.mp hgood).2).failed
      (fun habsent => View.Absent.bad (v := v.log e) habsent)
      (shut_of_limit_lt (v := v.log e) hp hcounted)
  exact hattempt.other (hp.fails_eq_false rfl) id

theorem Guarded.mild (hp : Fits a p good) (h : Guarded p good limit v)
    (hstep : Mild a Seals own v v') : Guarded p good limit v' := by
  cases hstep with
  | log e ha he =>
    exact h.log hp (Event.failed_of_quiet he)
  | reset e es hv he =>
    intro hgood
    have hgood' := (List.forall_mem_cons.mp hgood).2
    exact (h hgood').cleared (hp.fails_eq_false rfl) (hv ▸ hp.resets e es he (hv ▸ hgood'))
  | sealed t k d ht hk hd => exact h.congr rfl rfl fun habsent => (habsent.not_holds hk).elim
  | dropped t ht => exact h.congr rfl rfl fun habsent => habsent.put_none t

theorem Guarded.change (hp : Fits a p good) (h : Guarded p good limit v)
    (hstep : Change a limit Seals own v v') : Guarded p good limit v' := by
  cases hstep with
  | validated t => exact h.log hp rfl
  | move hstep =>
    cases hstep with
    | mild hstep => exact h.mild hp hstep
    | bad => exact h.bad hp
    | failed e ha he => exact h.failed hp e
    | totpStored k kt d hk hd => exact h.congr rfl rfl fun habsent => habsent.put_totp _

theorem Guarded.changes (hp : Fits a p good) (h : Guarded p good limit v)
    (hsteps : ReflTransGen (Change a limit Seals own) v v') : Guarded p good limit v' := by
  induction hsteps with
  | refl => exact h
  | tail _ hstep ih => exact ih.change hp hstep

theorem Guarded.store (hp : Fits a p good) (h : Guarded p good limit v) (amrNgcmfa : Bool)
    (k : LoadableMsHelloKey) : Guarded p good limit (v.store a amrNgcmfa k) := fun hgood =>
  (h fun x hx => hgood x (List.mem_cons_of_mem _ hx)).unlocked (hp.fails_eq_false rfl) hp.unlocks

theorem Guarded.calls (hp : Fits a p good) {may : View → Bool → Prop}
    (h : Guarded p good limit v) (hsteps : ReflTransGen (CallStep a limit Seals may) v v') :
    Guarded p good limit v' := by
  induction hsteps with
  | refl => exact h
  | tail _ hstep ih =>
    cases hstep with
    | change hstep => exact ih.change hp hstep
    | stored amrNgcmfa k hmay hsteps => exact (ih.store hp amrNgcmfa k).changes hp hsteps
    | cleared => exact ih.congr rfl rfl View.Absent.clear

end Guarded

end Entra

/-! ## 3. No key, no PIN -/

section NoPin

variable {D : Daemon W} {Seals : SealedUnder} {a : String} {v v' : View}

theorem Entra.HimmelblauProvider.Calls.key_eq_none {P : HimmelblauProvider W}
    (h : P.Calls Seals a Daemon.NoKey v v') (hv : v.key = none) : v'.key = none := by
  induction h with
  | refl => exact hv
  | tail _ hstep ih =>
    cases hstep with
    | stored amrNgcmfa k hmay hsteps => exact hmay.elim
    | cleared => rfl
    | change hstep => exact hstep.key_eq.elim id fun heq => heq.trans ih

namespace Daemon

variable (D a) in
/-- Whatever `p` results in while the account has no key satisfies `Q`. -/
def Yields {β : Type} (p : Op (ProviderState W) β) (Q : β → Prop) : Prop :=
  ∀ s, D.SnapshotAgrees a s → (D.viewOf a s).key = none → Q (p.exec s).1

theorem Yields.pure {β : Type} {Q : β → Prop} {x : β} (h : Q x) : D.Yields a (pure x) Q :=
  fun _ _ _ => h

theorem Yields.bind {α β : Type} {p : Op (ProviderState W) α} {f : α → Op (ProviderState W) β}
    {Q' : α → Prop} {Q : β → Prop} (hfollows : D.Follows (fun _ _ _ => True) a NoKey p)
    (hp : D.Yields a p Q') (hf : ∀ x, Q' x → D.Yields a (f x) Q) : D.Yields a (p >>= f) Q := by
  intro s hs hkey
  obtain ⟨hs', hcalls⟩ := hfollows s hs
  rw [Prog.exec_bind]
  exact hf _ (hp s hs hkey) _ hs' (hcalls.key_eq_none hkey)

theorem Yields.after {α β : Type} {p : Op (ProviderState W) α} {f : α → Op (ProviderState W) β}
    {Q : β → Prop} (hfollows : D.Follows (fun _ _ _ => True) a NoKey p)
    (hf : ∀ x, D.Yields a (f x) Q) : D.Yields a (p >>= f) Q := by
  have hany : D.Yields a p fun _ => True := fun _ _ _ => trivial
  exact .bind hfollows hany fun x _ => hf x

def NotPin (r : Except IdpError (AuthRequest × AuthCredHandler)) : Prop :=
  ∀ handler, r ≠ .ok (.pin, handler)

variable {token : Option UserToken} {noHelloPin forceReauth : Bool} {service : String}

theorem offlineInit_notPin : D.Yields a (Resolver.callKeystore
      (D.resolver.client.unixUserOfflineAuthInit a token noHelloPin)) NotPin := by
  intro s _ hkey handler h
  rw [D.client_eq] at h
  exact (D.provider.himmelblauOfflineAuthInit_opens true).run.2.of_pin h hkey

theorem authInitOnline_notPin :
    D.Yields a (D.resolver.authInitOnline a service token noHelloPin forceReauth) NotPin := by
  have hcall : D.Yields a (Resolver.callKeystore
      (D.resolver.client.unixUserOnlineAuthInit a token service noHelloPin forceReauth))
      NotPin := by
    intro s _ hkey handler h
    rw [D.client_eq] at h
    exact ((D.provider.unixUserOnlineAuthInit_opens service forceReauth).run.2.of_pin h).2 hkey
  have hresult : ∀ r, NotPin r → D.Yields a
      (D.resolver.authInitOnlineResult a token noHelloPin forceReauth r) NotPin := by
    intro r hr
    cases r with
    | ok res => exact .pure hr
    | error e =>
      change D.Yields a (D.resolver.authInitFallback a token noHelloPin forceReauth e) NotPin
      unfold Resolver.authInitFallback
      split
      · exact .pure (by simp [NotPin])
      · refine .after (admits.getCachestate_walks _).within fun state => ?_
        split
        · exact .pure (by simp [NotPin])
        · exact offlineInit_notPin
  unfold Resolver.authInitOnline
  refine .after (.lock _) fun _ => ?_
  refine .after follows_dbWrite fun _ => ?_
  refine .bind (admits.unixUserOnlineAuthInit a token service noHelloPin forceReauth) hcall
    fun r hr => ?_
  refine .bind (admits.authInitOnlineResult_moves forceReauth r).within (hresult r hr)
    fun maybeErr h => ?_
  refine .after follows_dbDrop fun _ => ?_
  exact .after (.unlock _) fun _ => .pure h

theorem authInitOffline_notPin :
    D.Yields a (D.resolver.authInitOffline a token noHelloPin) NotPin := by
  unfold Resolver.authInitOffline
  refine .after follows_dbWrite fun _ =>
    .bind (admits.unixUserOfflineAuthInit _ _ _) (offlineInit_notPin) fun r hr => ?_
  exact .after follows_dbDrop fun _ => .pure hr

theorem NotPin.finish {online : Bool} {r : Except IdpError (AuthRequest × AuthCredHandler)}
    (h : NotPin r) (session : AuthSession) :
    Resolver.authInitFinish a service token online noHelloPin forceReauth r ≠
      .ok (session, .pin) := by
  unfold Resolver.authInitFinish
  split
  · rename_i nextReq credHandler
    intro heq
    cases nextReq with
    | pin => exact h credHandler rfl
    | _ => simp [AuthRequest.into] at heq
  · simp
  · simp

theorem pamAccountAuthenticateInit_notPin :
    D.Yields a (D.resolver.pamAccountAuthenticateInit a service noHelloPin forceReauth)
      fun r => ∀ session, r ≠ .ok (session, .pin) := by
  refine .after admits.authInitPrelude_moves.within fun r => ?_
  split
  · exact .pure (by simp)
  · exact .pure (by simp)
  · split
    · exact .bind (admits.authInitOnline_moves _ _).within
        (authInitOnline_notPin) fun _ h => .pure h.finish
    · split
      · exact .pure (by simp)
      · exact .bind admits.authInitOffline_moves.within (authInitOffline_notPin)
          fun _ h => .pure h.finish

end Daemon

end NoPin

/-! ## 4. Bad PINs -/

/-- PINs that did not load the Hello key, since the counter was reset. -/
def badPins (a : String) : Policy Event where
  fails e := e = .pinTried a false
  clears e := e = .reset a
  unlocks e := e = .helloKeyStored a

def NoWrap (a : String) (e : Event) : Prop := e.account = a ∧ e ≠ .counted a 0

variable {a : String} (n : ℕ)

theorem badPins_fits : Fits a (badPins a) (NoWrap a) where
  failed e he := by
    obtain rfl := of_decide_eq_true he
    rfl
  unlocks := decide_eq_true rfl
  resets e es _ _ := (badPins a).failures_of_clears (decide_eq_true rfl)
  wraps h := h.2 rfl

namespace Daemon

variable {D : Daemon W} {a : String} {s : DaemonState W}

variable {inputs : List Input}

theorem allSteps_true (s : DaemonState W) : D.AllSteps (fun _ _ => True) s inputs := by
  induction inputs generalizing s with
  | nil => trivial
  | cons input inputs ih => exact ⟨trivial, ih _⟩

variable (hidem : ∀ x, D.toLowercase (D.toLowercase x) = D.toLowercase x)
  (ha : D.toLowercase a = a)
include hidem ha

theorem guarded_run {p : Policy Event} {good : Event → Prop} (hp : Fits a p good) (hs : Started s) :
    D.SnapshotAgrees a (D.run s inputs).resolver ∧
      Guarded p good D.provider.config.helloPinRetryCount
        (D.viewOf a (D.run s inputs).resolver) := by
  obtain ⟨hsnap, hcalls⟩ : _ ∧ D.provider.Calls _ a (fun _ _ => True) _ _ :=
    calls_run (SealingLaws.trivial D.provider) hidem ha (fun _ _ _ _ _ _ => trivial) inputs
      hs.sessionsLower hs.snapshotAgrees (allSteps_true s)
  have hstart : Guarded p good D.provider.config.helloPinRetryCount (D.viewOf a s.resolver) := by
    intro _
    have hevents : (D.viewOf a s.resolver).events = [] := by
      change s.resolver.client.trace.filter _ = []
      rw [hs.trace]
      rfl
    rw [hevents]
    exact .nil
  exact ⟨hsnap, hstart.calls hp hcalls⟩

theorem absent_run {p : Policy Event} (hp : Fits a p (NoWrap a))
    (hknows : ∀ e, e.account ≠ a → p.fails e = false ∧ p.clears e = false ∧ p.unlocks e = false)
    (hs : Started s) (hwrap : .counted a 0 ∉ (D.run s inputs).resolver.client.trace)
    (hex : p.Exceeded D.provider.config.helloPinRetryCount.toNat
      (D.run s inputs).resolver.client.trace) :
    (D.viewOf a (D.run s inputs).resolver).Absent := by
  have hother : ∀ e : Event, decide (e.account = a) = false → e.account ≠ a :=
    fun e he => of_decide_eq_false he
  refine ((guarded_run hidem ha hp hs).2 fun e he => ?_).locks ?_
  · obtain ⟨he, haccount⟩ := List.mem_filter.mp he
    exact ⟨of_decide_eq_true haccount, fun heq => hwrap (heq ▸ he)⟩
  · exact (p.exceeded_filter (fun e he => (hknows e (hother e he)).1)
      (fun e he => (hknows e (hother e he)).2.1) fun e he => (hknows e (hother e he)).2.2).mpr hex

/-- **PIN lockout.**  If the counter did not wrap around, more than the allowed number of bad
    PINs remove all keys until a new one is stored, and no PIN is asked for. -/
theorem bad_pins_lock (hs : Started s) (inputs : List Input)
    (hwrap : .counted a 0 ∉ (D.run s inputs).resolver.client.trace)
    (hex : (badPins a).Exceeded D.provider.config.helloPinRetryCount.toNat
      (D.run s inputs).resolver.client.trace) :
    (D.run s inputs).resolver.db.hsmDataT (D.provider.fetchHelloKeyTag a true) = none ∧
    (D.run s inputs).resolver.db.hsmDataT (D.provider.fetchHelloKeyTag a false) = none ∧
    (D.run s inputs).resolver.db.hsmDataT (D.provider.fetchHelloPrtKeyTag a) = none ∧
    (D.run s inputs).resolver.db.hsmDataT (D.provider.fetchHelloRefreshTokenKeyTag a) = none ∧
    ∀ service noHelloPin forceReauth session,
      ((D.resolver.pamAccountAuthenticateInit a service noHelloPin forceReauth).exec
        (D.run s inputs).resolver).1 ≠ .ok (session, .pin) := by
  have habsent := absent_run hidem ha (badPins_fits) (fun e he => by
    refine ⟨?_, ?_, ?_⟩ <;> refine decide_eq_false ?_ <;> rintro rfl <;> exact he rfl)
    hs hwrap hex
  refine ⟨habsent .hello (by decide), habsent .decoupled (by decide), habsent .prt (by decide),
    habsent .refreshToken (by decide), fun service noHelloPin forceReauth => ?_⟩
  exact pamAccountAuthenticateInit_notPin _
    (guarded_run hidem ha (badPins_fits) hs).1 habsent.key_eq_none

end Daemon

theorem bad_pins_lock_alice :
    ((sampleDaemon 2 false).run (sampleState .online aliceKeystore)
      (List.replicate 3 (sampleLogin [.pin "000000"])).flatten).resolver.db.hsmDataT
      "alice@example.com/hello" = none :=
  ((sampleDaemon 2 false).bad_pins_lock (a := "alice@example.com") (fun _ => rfl) rfl
    (sampleState_started .online aliceKeystore)
    (List.replicate 3 (sampleLogin [.pin "000000"])).flatten
    (by decide +kernel) (by decide +kernel)).1

/-! A retry limit of `u32::MAX` is never exceeded: the counter is 0 again after `2 ^ 32` bad
    PINs. -/

def wrongPins : ℕ → List Event
  | 0 => []
  | n + 1 => .counted "alice@example.com" (UInt32.ofNat (n + 1)) ::
      .pinTried "alice@example.com" false :: wrongPins n

theorem failures_wrongPins : (badPins "alice@example.com").failures (wrongPins n) = n := by
  induction n with
  | zero => rfl
  | succ n ih =>
    simp only [badPins] at ih
    simp [wrongPins, Policy.failures, badPins, ih]

theorem exceeded_wrongPins {limit n : ℕ} (h : limit < n + 1) :
    (badPins "alice@example.com").Exceeded limit (wrongPins (n + 1)) := by
  have hfailures : (badPins "alice@example.com").failures
      (.pinTried "alice@example.com" false :: wrongPins n) = n + 1 :=
    congrArg (· + 1) (failures_wrongPins n)
  refine ⟨rfl, .inr ⟨rfl, .inl ⟨rfl, ?_⟩⟩⟩
  rw [hfailures]
  exact h

def afterWrongPins (ticks : ℕ) : ResolverState (ProviderState Unit) :=
  { (sampleState .offline aliceKeystore).resolver with
    ticks := ticks
    client := { sampleProviderState .offline with
      badPinCounter := Function.update (fun _ => 0) "alice@example.com" (UInt32.ofNat n)
      trace := wrongPins n } }

def aliceOffline : InProgress where
  accountId := "alice@example.com"
  service := "login"
  id := .name "alice@example.com"
  token := some aliceToken
  onlineAtInit := false
  credHandler := .none
  noHelloPin := false
  forceReauth := false

theorem le_maxCount (n : UInt32) : n ≤ 0xFFFFFFFF := by
  rw [UInt32.le_iff_toNat_le]
  have := n.toNat_lt
  simp only [UInt32.reduceToNat]
  omega

theorem handleHelloBadPinCount_below {ρ : Type} {P : HimmelblauProvider W} {c : Ctx W}
    (hcount : ¬ P.config.helloPinRetryCount < c.provider.badPinCounter a + 1) (retFn : String → ρ) :
    (P.handleHelloBadPinCount a retFn).Ensures c
      (fun _ c' => c' = ((HimmelblauProvider.incrementBadPinCount a : Fn W ρ Unit) c).2)
      (fun r c' => (∃ msg, r = retFn msg) ∧
        c' = ((HimmelblauProvider.incrementBadPinCount a : Fn W ρ Unit) c).2) := by
  unfold HimmelblauProvider.handleHelloBadPinCount HimmelblauProvider.incrementBadPinCount
  simp only [Body.ensures_bind, Body.ensures_modify, Body.ensures_get, Function.update_self]
  split
  · exact ⟨⟨_, rfl⟩, rfl⟩
  · rfl

theorem offlineInit_alice :
    runFn ((sampleProvider 0xFFFFFFFF false).himmelblauOfflineAuthInit "alice@example.com" false
      true) aliceKeystore (afterWrongPins n 0).client =
      (.ok (.pin, .none), aliceKeystore, (afterWrongPins n 0).client) := by
  have hrun : ((sampleProvider 0xFFFFFFFF false).himmelblauOfflineAuthInit "alice@example.com"
      false true).run ⟨aliceKeystore, (afterWrongPins n 0).client, .none⟩ =
      (.ok (.pin, .none), ⟨aliceKeystore, (afterWrongPins n 0).client, .none⟩) := by
    refine Body.run_eq ?_
    unfold HimmelblauProvider.himmelblauOfflineAuthInit
    simp only [Body.ensures_bind, Body.ensures_get]
    rw [if_pos ⟨rfl, le_maxCount _, trivial⟩]
    exact ⟨rfl, rfl⟩
  rw [runFn, hrun]

theorem offlinePin_alice :
    ∃ msg, runStep ((sampleProvider 0xFFFFFFFF false).himmelblauOfflineAuthStep
      "alice@example.com" aliceToken (.pin "000000")) .none aliceKeystore
      (afterWrongPins n 0).client =
      ((.ok (.denied msg), .none), aliceKeystore, (afterWrongPins (n + 1) 0).client) := by
  have hdenied : ((sampleProvider 0xFFFFFFFF false).himmelblauOfflineAuthStep "alice@example.com"
      aliceToken (.pin "000000")).Ensures ⟨aliceKeystore, (afterWrongPins n 0).client, .none⟩
      (fun r c' => (∃ msg, r = .ok (.denied msg)) ∧
        c' = ⟨aliceKeystore, (afterWrongPins (n + 1) 0).client, .none⟩)
      (fun r c' => (∃ msg, r = .ok (.denied msg)) ∧
        c' = ⟨aliceKeystore, (afterWrongPins (n + 1) 0).client, .none⟩) := by
    let c1 : Ctx Unit := ⟨aliceKeystore, { (afterWrongPins n 0).client with
      trace := .pinTried "alice@example.com" false :: wrongPins n }, .none⟩
    have hcounted : ((HimmelblauProvider.incrementBadPinCount "alice@example.com" :
        Fn Unit (Except IdpError AuthResult) Unit) c1).2 =
        ⟨aliceKeystore, (afterWrongPins (n + 1) 0).client, .none⟩ := by
      have hcount : c1.provider.badPinCounter "alice@example.com" + 1 = UInt32.ofNat (n + 1) := by
        rw [UInt32.ofNat_add]
        rfl
      simp only [HimmelblauProvider.incrementBadPinCount, Body.modify, hcount]
      simp only [c1, afterWrongPins, wrongPins, Function.update_idem]
    let deny : Fn Unit (Except IdpError AuthResult) (Except IdpError AuthResult) := do
      (sampleProvider 0xFFFFFFFF false).handleHelloBadPinCount "alice@example.com" fun msg =>
        .ok (.denied msg)
      return .ok (.denied "Failed to authenticate with Hello PIN.")
    change deny.Ensures c1 _ _
    refine .bind ((handleHelloBadPinCount_below (UInt32.not_lt.mpr (le_maxCount _)) _).mono
      (fun _ _ h => h) ?_) ?_
    · rintro _ _ ⟨⟨msg, rfl⟩, rfl⟩
      exact ⟨⟨msg, rfl⟩, hcounted⟩
    · rintro _ _ rfl
      exact ⟨⟨_, rfl⟩, hcounted⟩
  obtain ⟨msg, hmsg⟩ := hdenied.run.1
  refine ⟨msg, ?_⟩
  rw [runStep, hmsg, hdenied.run.2]

theorem init_wrongPins (ticks : ℕ) :
    ((sampleDaemon 0xFFFFFFFF false).resolver.pamAccountAuthenticateInit "alice@example.com" "login"
      false false).exec (afterWrongPins n ticks) =
      (.ok (.inProgress aliceOffline, .pin), afterWrongPins n (ticks + 1)) := by
  have hexec : ∀ call, runFn ((sampleProvider 0xFFFFFFFF false).himmelblauOfflineAuthInit
      "alice@example.com" false true) aliceKeystore (afterWrongPins n 0).client = call →
      ((sampleDaemon 0xFFFFFFFF false).resolver.pamAccountAuthenticateInit "alice@example.com"
        "login" false false).exec (afterWrongPins n ticks) =
        (Resolver.authInitFinish "alice@example.com" "login" (some aliceToken) false false false
          call.1, { afterWrongPins n (ticks + 1) with client := call.2.2 }) := by
    rintro _ rfl
    rfl
  exact hexec _ (offlineInit_alice n)

theorem step_wrongPins (ticks : ℕ) :
    ∃ msg, ((sampleDaemon 0xFFFFFFFF false).resolver.pamAccountAuthenticateStep
      (.inProgress aliceOffline) (.pin "000000")).exec (afterWrongPins n ticks) =
      ((.ok (.denied msg), .denied), afterWrongPins (n + 1) ticks) := by
  obtain ⟨msg, hcall⟩ := offlinePin_alice n
  have hexec : ∀ call, runStep ((sampleProvider 0xFFFFFFFF false).himmelblauOfflineAuthStep
      "alice@example.com" aliceToken (.pin "000000")) .none aliceKeystore
      (afterWrongPins n 0).client = call →
      ((sampleDaemon 0xFFFFFFFF false).resolver.pamAccountAuthenticateStep
        (.inProgress aliceOffline) (.pin "000000")).exec (afterWrongPins n ticks) =
        ((sampleDaemon 0xFFFFFFFF false).resolver.authStepFinish
          (.inProgress { aliceOffline with credHandler := call.1.2 }) call.1.1).exec
          ((afterWrongPins n ticks).called call.2.1 call.2.2) := by
    rintro _ rfl
    rfl
  exact ⟨msg, hexec _ hcall⟩

theorem run_wrongPin (sessions : ℕ → Option AuthSession) :
    ∃ sessions', (sampleDaemon 0xFFFFFFFF false).run ⟨afterWrongPins n n, sessions⟩
      (sampleLogin [.pin "000000"]) = ⟨afterWrongPins (n + 1) (n + 1), sessions'⟩ := by
  have hinit : (sampleDaemon 0xFFFFFFFF false).step ⟨afterWrongPins n n, sessions⟩ (.client 0 1000
      (.pamAuthenticateInit "alice@example.com" "login" false false)) =
      ⟨afterWrongPins n (n + 1), Function.update sessions 0 (some (.inProgress aliceOffline))⟩ := by
    have hlower : (sampleDaemon 0xFFFFFFFF false).toLowercase "alice@example.com" =
      "alice@example.com" := rfl
    simp only [Daemon.step, Daemon.handleClient, hlower, Prog.exec_bind, init_wrongPins,
      Prog.exec_pure]
  obtain ⟨msg, hpin⟩ := step_wrongPins n (n + 1)
  refine ⟨Function.update (Function.update sessions 0 (some (.inProgress aliceOffline))) 0
    (some .denied), ?_⟩
  rw [sampleLogin, Daemon.run_cons, hinit]
  simp only [List.map_cons, List.map_nil, Daemon.run_cons, Daemon.run_nil, Daemon.step,
    Daemon.handleClient, Function.update_self, Daemon.authenticateStep, Prog.exec_bind, hpin]
  rfl

theorem run_wrongPins :
    ∃ sessions, (sampleDaemon 0xFFFFFFFF false).run (sampleState .offline aliceKeystore)
      (List.replicate n (sampleLogin [.pin "000000"])).flatten =
      ⟨afterWrongPins n n, sessions⟩ := by
  induction n with
  | zero =>
    have hcounter : Function.update (fun _ => 0) "alice@example.com" (UInt32.ofNat 0) =
      (sampleProviderState .offline).badPinCounter := Function.update_eq_self _ _
    refine ⟨fun _ => none, ?_⟩
    unfold afterWrongPins
    rw [hcounter]
    rfl
  | succ n ih =>
    obtain ⟨sessions, hrun⟩ := ih
    rw [List.replicate_succ', List.flatten_append, Daemon.run_append, hrun, List.flatten_singleton]
    exact run_wrongPin n sessions

/-- With a limit of `u32::MAX`, `2 ^ 32` bad PINs do not lock the account. -/
theorem bad_pins_wrap :
    (badPins "alice@example.com").Exceeded
      (sampleDaemon 0xFFFFFFFF false).provider.config.helloPinRetryCount.toNat
      ((sampleDaemon 0xFFFFFFFF false).run (sampleState .offline aliceKeystore)
        (List.replicate (2 ^ 32) (sampleLogin [.pin "000000"])).flatten).resolver.client.trace ∧
    ((sampleDaemon 0xFFFFFFFF false).run (sampleState .offline aliceKeystore)
      (List.replicate (2 ^ 32) (sampleLogin [.pin "000000"])).flatten).resolver.db.hsmDataT
      "alice@example.com/hello" = some (.helloKey ⟨"123456"⟩) := by
  obtain ⟨sessions, hrun⟩ := run_wrongPins (2 ^ 32)
  rw [hrun]
  exact ⟨exceeded_wrongPins (n := 2 ^ 32 - 1) (by decide), rfl⟩

/-- `PinValue` refuses a PIN of fewer than six characters. -/
def sixCharacters : HimmelblauProvider Unit :=
  { sampleProvider 1 false with
    outside := { sampleOutside with
      pinValueNew := fun cred => if cred.length < 6 then none else some ⟨cred⟩ } }

/-- With a limit of one, three PINs that are too short do not lock the account either: they
    are refused before the key is touched and are not counted. -/
theorem short_pins_uncounted :
    let d : Daemon Unit := { sampleDaemon 1 false with
      provider := sixCharacters
      resolver := { outageResolver with client := entraProvider sixCharacters }
      client_eq := rfl }
    let s := (d.run (sampleState .online aliceKeystore)
      (List.replicate 3 (sampleLogin [.pin "0000"])).flatten).resolver
    s.client.trace = [] ∧
    s.db.hsmDataT "alice@example.com/hello" = some (.helloKey ⟨"123456"⟩) := by
  decide +kernel

/-! ## 5. Rejected codes -/

/-- TOTP codes that were rejected, since a login of the account succeeded or the identity
    provider gave an answer after which the counter is reset. -/
def rejectedCodes (a : String) : Policy Event where
  fails e := e = .codeTried a false
  clears e := e.account = a && e.allowsReset
  unlocks e := e = .helloKeyStored a

theorem rejectedCodes_fits : Fits a (rejectedCodes a) (NoWrap a) where
  failed e he := by
    obtain rfl := of_decide_eq_true he
    rfl
  unlocks := decide_eq_true rfl
  resets e es he hgood := by
    have hclears : (rejectedCodes a).clears e = true :=
      Bool.and_eq_true_iff.mpr ⟨decide_eq_true (hgood e List.mem_cons_self).1, he⟩
    have hreset : (rejectedCodes a).clears (.reset a) = false := Bool.and_false _
    rw [(rejectedCodes a).failures_of_other (decide_eq_false (by simp)) hreset,
      (rejectedCodes a).failures_of_clears hclears]
  wraps h := h.2 rfl

/-- **Second-factor lockout.**  If the counter did not wrap around, more than the allowed
    number of rejected codes remove the Hello keys until a new one is stored. -/
theorem Daemon.rejected_codes_lock {D : Daemon W} {a : String} {s : DaemonState W}
    (hidem : ∀ x, D.toLowercase (D.toLowercase x) = D.toLowercase x)
    (ha : D.toLowercase a = a) (hs : Started s) (inputs : List Input)
    (hwrap : .counted a 0 ∉ (D.run s inputs).resolver.client.trace)
    (hex : (rejectedCodes a).Exceeded D.provider.config.helloPinRetryCount.toNat
      (D.run s inputs).resolver.client.trace) :
    (D.run s inputs).resolver.db.hsmDataT (D.provider.fetchHelloKeyTag a true) = none ∧
    (D.run s inputs).resolver.db.hsmDataT (D.provider.fetchHelloKeyTag a false) = none := by
  have habsent := absent_run hidem ha (rejectedCodes_fits) (fun e he => by
    refine ⟨decide_eq_false ?_, ?_, decide_eq_false ?_⟩
    · rintro rfl
      exact he rfl
    · exact Bool.and_eq_false_imp.mpr fun h => absurd (of_decide_eq_true h) he
    · rintro rfl
      exact he rfl) hs hwrap hex
  exact ⟨habsent .hello (by decide), habsent .decoupled (by decide)⟩

/-- Two connections log in with the right PIN, and each then sends a wrong code. -/
def codesOfTwo : List Input :=
  [0, 1].flatMap (fun connection =>
    [.client connection 1000 (.pamAuthenticateInit "alice@example.com" "login" false false),
      .client connection 1000 (.pamAuthenticateStep (.pin "123456"))]) ++
  [0, 1].map fun connection =>
    .client connection 1000 (.pamAuthenticateStep (.helloTOTP "000000"))

theorem rejected_codes_lock_alice :
    ((sampleDaemon 1 true).run (sampleState .online aliceTotpKeystore) codesOfTwo
      ).resolver.db.hsmDataT "alice@example.com/hello" = none :=
  ((sampleDaemon 1 true).rejected_codes_lock (a := "alice@example.com") (fun _ => rfl) rfl
    (sampleState_started .online aliceTotpKeystore) codesOfTwo
    (by decide +kernel) (by decide +kernel)).1

/-- Two online logins with the right PIN and a wrong code: with a limit of one, the key is
    still there, for the token that the PIN acquires resets the counter in between. -/
theorem rejected_codes_reset :
    let trace := ((sampleDaemon 1 true).run (sampleState .online aliceTotpKeystore)
      (sampleLogin [.pin "123456", .helloTOTP "000000"] ++
        sampleLogin [.pin "123456", .helloTOTP "000000"])).resolver.client.trace
    trace.count (.codeTried "alice@example.com" false) = 2 ∧
    .success "alice@example.com" ∉ trace ∧
    .helloKeyStored "alice@example.com" ∉ trace ∧
    ((sampleDaemon 1 true).run (sampleState .online aliceTotpKeystore)
      (sampleLogin [.pin "123456", .helloTOTP "000000"] ++
        sampleLogin [.pin "123456", .helloTOTP "000000"])).resolver.db.hsmDataT
      "alice@example.com/hello" = some (.helloKey ⟨"123456"⟩) := by
  decide +kernel

end Himmelblau
