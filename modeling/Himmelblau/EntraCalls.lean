/-
  **What a call of the Entra provider does to an account.**  The methods that the resolver
  calls, one after the other, as changes of the view of an account: most leave it alone,
  `unix_user_get` may put a validated token on record, and only a step and a new PIN do
  more.
-/
import Himmelblau.EntraMoves

namespace Himmelblau.Entra

open Interface Config Msal FunctionBody Ctx Relation

variable {W ρ α β : Type}

namespace HimmelblauProvider

variable (P : HimmelblauProvider W)

/-! ## 1. Methods that put nothing but validated tokens on record -/

/-- Every account's view is as it was, up to tokens that were validated. -/
structure Watched (c c' : Ctx W) : Prop where
  see : ∀ b, ReflTransGen (fun v v' => ∃ t, v' = v.log (.validated b t)) (P.see b c) (P.see b c')
  own : P.WritesOwn c c'

instance : Std.Refl P.Watched := ⟨fun _ => ⟨fun _ => .refl, fun _ _ => rfl⟩⟩

instance : IsTrans (Ctx W) P.Watched :=
  ⟨fun _ _ _ h h' => ⟨fun b => (h.see b).trans (h'.see b), h.own.trans h'.own⟩⟩

variable {P}

variable {c c' : Ctx W} {a : String} {token : UnixUserToken} {oldToken : Option UserToken}
  {request : Ext W (Except MsalError UnixUserToken)} {id : Id} {handler : AuthCredHandler}
  {noHelloPin : Bool}

theorem SameViews.watched (h : P.SameViews c c') : P.Watched c c' :=
  ⟨fun b => by rw [h.see b], h.own⟩

theorem Silent.watched {p : Fn W ρ α} (hp : P.Silent p) : Body.Within P.Watched p := fun c =>
  (hp c).mono (fun _ _ h => h.watched) fun _ _ h => h.elim

variable (P)

theorem tokenValidate_watched :
    Body.Within P.Watched (P.tokenValidate a token oldToken : Fn W ρ _) := by
  unfold tokenValidate
  split
  · exact .pure _
  · exact .pure _
  · refine .bind (P.matchesRequestedUser_calm _).idle.silent.watched fun r => ?_
    split
    · exact .pure _
    · exact .pure _
    · refine .bind (P.refreshCacheAdd_idle _).silent.watched fun _ => ?_
      refine .bind (Silent.ask _).watched fun r => ?_
      split
      · exact .pure _
      · rename_i t
        refine .bind (fun c => ⟨fun b => ?_, fun _ _ => rfl⟩) fun _ => .pure _
        by_cases hb : a = b
        · subst hb
          exact .single ⟨t, P.see_log_self rfl⟩
        · exact P.see_log_ne (c := c) (e := .validated a t) hb ▸ .refl

theorem getNetDownCheck_watched {res : Except MsalError α} {onErr : Fn W GetAnswer α}
    (hErr : Body.Within P.Watched onErr) : Body.Within P.Watched (P.getNetDownCheck res onErr) := by
  unfold getNetDownCheck
  split
  · exact .pure _
  · exact .bind P.netDown_calm.idle.silent.watched fun _ => .leave _
  · exact hErr

theorem placeholder_watched : Body.Within P.Watched (P.placeholder a : Fn W GetAnswer α) := by
  refine .bind (Silent.ask _).watched fun r => ?_
  split
  · exact .leave _
  · refine .bind (Silent.ask _).watched fun _ => .bind (Silent.ask _).watched fun r => ?_
    split
    · exact .leave _
    · exact .leave _

theorem fakeUser_watched : Body.Within P.Watched (P.fakeUser a oldToken : Fn W GetAnswer α) := by
  unfold fakeUser
  split
  · exact .leave _
  · refine .bind (Silent.ask _).watched fun r => ?_
    refine .bind (P.getNetDownCheck_watched (.leave _)) fun authInit => ?_
    split
    · exact P.placeholder_watched
    · exact .leave _

theorem retryOrFake_watched : Body.Within P.Watched (P.retryOrFake a oldToken request) := by
  refine .bind (Silent.ask _).watched fun r => ?_
  split
  · exact .pure _
  · exact P.fakeUser_watched

theorem getByPrt_watched (prt : SealedData) :
    Body.Within P.Watched (P.getByPrt a oldToken prt) := by
  refine .bind (Silent.ask _).watched fun r => ?_
  split
  · exact .pure _
  · exact .bind (Silent.ask _).watched fun r =>
      P.getNetDownCheck_watched P.fakeUser_watched
  · split
    · exact P.retryOrFake_watched
    · split
      · exact P.retryOrFake_watched
      · exact P.fakeUser_watched
  · split
    · exact P.retryOrFake_watched
    · exact P.fakeUser_watched
  · exact P.fakeUser_watched

theorem getByRefreshToken_watched (token : String) :
    Body.Within P.Watched (P.getByRefreshToken a oldToken token) := by
  refine .bind (Silent.ask _).watched fun r => ?_
  split
  · exact .leave _
  · refine .bind (Silent.ask _).watched fun r => ?_
    split
    · exact .pure _
    · exact .bind (Silent.ask _).watched fun r =>
        P.getNetDownCheck_watched P.fakeUser_watched
    · exact P.fakeUser_watched

theorem finishGet_watched : Body.Within P.Watched (P.finishGet a oldToken token) := by
  refine .bind P.tokenValidate_watched fun r => ?_
  split
  · exact .pure _
  · exact P.fakeUser_watched

theorem unixUserGet_watched : Body.Within P.Watched (P.unixUserGet id oldToken) := by
  refine .bind P.delayedInit_calm.idle.silent.watched fun ok => ?_
  split
  · refine .bind (Silent.ask _).watched fun now => ?_
    refine .bind (P.checkOnline_calm now).idle.silent.watched fun online => ?_
    split
    · refine .bind (Silent.ask _).watched fun r => ?_
      split
      · exact .pure _
      · exact .pure _
      · refine .bind (Silent.ask _).watched fun opens => ?_
        split
        · refine .bind P.refreshToken_idle.silent.watched fun entry => ?_
          split
          · exact P.fakeUser_watched
          · exact .bind (P.getByPrt_watched _) fun token => P.finishGet_watched
          · exact .bind (P.getByRefreshToken_watched _) fun token =>
              P.finishGet_watched
        · exact .pure _
    · exact .pure _
  · exact .bind P.netDown_calm.idle.silent.watched fun _ => .pure _

/-! ## 2. Methods that leave the views alone -/

theorem renewOldPrt_silent : P.Silent (P.renewOldPrt a : Fn W ρ Unit) := by
  refine .bind (.ask _) fun now => .bind .get fun c => ?_
  split
  · exact .pure _
  · split
    · refine .bind P.refreshToken_idle.silent fun r => ?_
      split
      · refine .bind (.ask _) fun r => ?_
        split
        · exact (P.refreshCacheAdd_idle _).silent
        · exact .pure _
      · exact .pure _
    · exact .pure _

theorem orBadRequest_silent : P.Silent (orBadRequest request : Fn W ρ _) := by
  refine .bind (.ask _) fun r => ?_
  split <;> exact .pure _

theorem unixUserAccess_silent (scopes : List String) (clientId redirectUri reqCnf : Option String) :
    P.Silent (P.unixUserAccess id scopes oldToken clientId redirectUri reqCnf : Fn W ρ _) := by
  refine .bind P.renewOldPrt_silent fun _ => .bind P.delayedInit_calm.idle.silent fun ok => ?_
  split
  · refine .bind (.ask _) fun now => .bind (P.checkOnline_calm now).idle.silent fun online => ?_
    split
    · refine .bind P.refreshToken_idle.silent fun r => ?_
      split
      · exact .pure _
      · unfold accessByEntry
        split
        · exact P.orBadRequest_silent
        · refine .bind (.ask _) fun r => ?_
          split
          · exact .pure _
          · exact .bind .get fun _ => P.orBadRequest_silent
    · exact .pure _
  · exact .pure _

theorem unixUserTgts_silent : P.Silent (P.unixUserTgts id oldToken : Fn W ρ _) := by
  have htenant : P.Silent (P.tgtsTenant oldToken : Fn W ρ _) := by
    unfold tgtsTenant
    split
    · exact .pure _
    · refine .bind .get fun c => ?_
      split
      · exact .pure _
      · exact .bind (.ask _) fun _ => .pure _
  refine .bind P.delayedInit_calm.idle.silent fun ok => ?_
  split
  · refine .bind (.ask _) fun now => .bind (P.checkOnline_calm now).idle.silent fun online => ?_
    split
    · refine .bind P.refreshToken_idle.silent fun r => ?_
      split
      · exact .bind (.ask _) fun _ => .bind htenant fun _ => .pure _
      · exact .pure _
    · exact .pure _
  · exact .pure _

theorem unixUserPrtCookie_silent (ssoNonce : Option String) :
    P.Silent (P.unixUserPrtCookie id oldToken ssoNonce : Fn W ρ _) := by
  refine .bind P.delayedInit_calm.idle.silent fun ok => ?_
  split
  · refine .bind P.refreshToken_idle.silent fun r => ?_
    split
    · refine .bind (.ask _) fun r => ?_
      split <;> exact .pure _
    · exact .pure _
  · exact .pure _

theorem offlineBreakGlass_silent (ttl : Option ℕ) :
    P.Silent (P.offlineBreakGlass ttl : Fn W ρ _) := by
  unfold offlineBreakGlass
  split
  · exact .bind (.ask _) fun now => .bind (Body.Stays.setState _).idle.silent fun _ => .pure _
  · exact .pure _

theorem exportBrokerPrts_silent : P.Silent (P.exportBrokerPrts : Fn W ρ _) := by
  refine .bind .get fun c => ?_
  split <;> exact .pure _

theorem importBrokerPrts_silent (data : String) :
    P.Silent (P.importBrokerPrts data : Fn W ρ _) := by
  unfold importBrokerPrts
  split
  · exact .pure _
  · exact .bind (.modify fun _ => .idle rfl rfl rfl) fun _ => .pure _

end HimmelblauProvider

/-! ## 3. Opening a session -/

/-- What an init may answer: the password comes first only on a local service, and the PIN is
    asked for only where Hello may be offered. -/
inductive Offers (isRemoteService : Bool) (hello : Prop) : InitAnswer → Prop
  | error (e : IdpError) : Offers isRemoteService hello (.error e)
  | prompt (d : AuthRequest) (h : AuthCredHandler) (hpin : d ≠ .pin)
      (hnew : h = .none ∨ isMfa h = true) : Offers isRemoteService hello (.ok (d, h))
  | first (opts : List AuthOption) (isDomainJoined : Bool) (hlocal : isRemoteService = false) :
      Offers isRemoteService hello (.ok (.password, .passwordFirst opts isDomainJoined))
  | pin (hhello : hello) : Offers isRemoteService hello (.ok (.pin, .none))

variable {isRemoteService : Bool} {hello : Prop}

theorem Offers.of_pin {r : InitAnswer} {handler : AuthCredHandler}
    (h : Offers isRemoteService hello r) (hr : r = .ok (.pin, handler)) : hello := by
  subst hr
  cases h with
  | prompt _ _ hpin _ => exact absurd rfl hpin
  | pin hhello => exact hhello

theorem Offers.mono {hello' : Prop} {r : InitAnswer} (h : Offers isRemoteService hello r)
    (hhello : hello → hello') : Offers isRemoteService hello' r := by
  cases h with
  | error e => exact .error e
  | prompt d h hpin hnew => exact .prompt d h hpin hnew
  | first opts isDomainJoined hlocal => exact .first opts isDomainJoined hlocal
  | pin h => exact .pin (hhello h)

/-- Hello may be offered to the service: it is local, or Hello is let through to remote ones. -/
def HelloAllowed (config : HimmelblauConfig) (service : String) : Prop :=
  config.isRemoteService service = true →
    config.enableHelloTotp = true ∨ config.allowRemoteHello = true

namespace HimmelblauProvider

variable (P : HimmelblauProvider W) (isRemoteService) (hello)

def Opens (c : Ctx W) (r : InitAnswer) (c' : Ctx W) : Prop :=
  P.SameViews c c' ∧ Offers isRemoteService hello r

def Asks (p : Fn W InitAnswer α) : Prop :=
  ∀ c, p.Ensures c (fun _ c' => P.SameViews c c') (P.Opens isRemoteService hello c)

variable {P isRemoteService hello} {c c' : Ctx W} {a : String} {noHelloPin : Bool}

theorem Asks.then {p : Fn W InitAnswer α} {f : α → Fn W InitAnswer InitAnswer}
    (hp : P.Asks isRemoteService hello p)
    (hf : ∀ x c, (f x).Gives c (P.Opens isRemoteService hello c)) (c : Ctx W) :
    (p >>= f).Gives c (P.Opens isRemoteService hello c) :=
  (hp c).bind fun x c1 h => (hf x c1).mono (fun _ _ h' => ⟨h.trans h'.1, h'.2⟩)
    fun _ _ h' => ⟨h.trans h'.1, h'.2⟩

theorem Asks.of_silent {p : Fn W InitAnswer α} (hp : P.Silent p) :
    P.Asks isRemoteService hello p := fun c =>
  (hp c).mono (fun _ _ h => h) fun _ _ h => h.elim

theorem opens_of {r : InitAnswer} (h : Offers isRemoteService hello r) :
    P.Opens isRemoteService hello c r c := ⟨.idle rfl rfl rfl, h⟩

variable (P)

theorem initNetDownCheck_asks (res : Except MsalError α)
    {onErr : MsalError → Fn W InitAnswer α} (hErr : ∀ e, P.Asks isRemoteService hello (onErr e)) :
    P.Asks isRemoteService hello (P.initNetDownCheck res onErr) := by
  unfold initNetDownCheck
  split
  · exact fun c => .idle rfl rfl rfl
  · intro c
    refine (P.netDown_calm.idle.silent (P := P) c).andThen fun _ c1 h1 => ?_
    exact ⟨h1, .prompt _ _ nofun (.inl rfl)⟩
  · exact hErr _

theorem leave_asks {r : InitAnswer} (hr : Offers isRemoteService hello r) :
    P.Asks isRemoteService hello (Body.leave r : Fn W InitAnswer α) := fun _ => opens_of hr

theorem promptPassword_opens {h : AuthCredHandler}
    (hh : Offers isRemoteService hello (.ok (.password, h))) :
    (P.promptPassword h).Gives c (P.Opens isRemoteService hello c) := by
  refine (Asks.of_silent (.ask _)).then (fun now c => ?_) c
  refine (Asks.of_silent (P.attemptOnline_calm now).idle.silent).then (fun online c => ?_) c
  split
  · exact opens_of hh
  · exact opens_of (.prompt _ _ nofun (.inl rfl))

theorem initMfa_opens :
    (P.initMfa a isRemoteService).Gives c (P.Opens isRemoteService hello c) := by
  refine (Asks.of_silent (.ask _)).then (fun r c => ?_) c
  refine (P.initNetDownCheck_asks r fun e => P.leave_asks (.error _)).then
    (fun authInit c => ?_) c
  split
  · rename_i hfirst
    simp only [Bool.and_eq_true, Bool.not_eq_true'] at hfirst
    exact (Asks.of_silent .get).then
      (fun _ c => P.promptPassword_opens (.first _ _ hfirst.1.2)) c
  · split
    · exact P.promptPassword_opens (.prompt _ _ nofun (.inl rfl))
    · refine (Asks.of_silent (.ask _)).then (fun r c => ?_) c
      refine (P.initNetDownCheck_asks r fun e => ?_).then (fun flow c => ?_) c
      · split
        · exact P.leave_asks (.prompt _ _ nofun (.inl rfl))
        · exact P.leave_asks (.error _)
      · refine opens_of (.prompt _ _ ?_ (.inr rfl))
        unfold flowRequest
        split <;> simp [pollRequest]

theorem initDeviceFlow_opens :
    (P.initDeviceFlow isRemoteService).Gives c (P.Opens isRemoteService hello c) := by
  refine (Asks.of_silent (.ask _)).then (fun r c => ?_) c
  refine (P.initNetDownCheck_asks r fun e => P.leave_asks (.error _)).then
    (fun flow c => ?_) c
  exact opens_of (.prompt _ _ nofun (.inr rfl))

theorem unixUserOnlineAuthInit_opens (service : String) (forceReauth : Bool) :
    (P.unixUserOnlineAuthInit a service noHelloPin forceReauth).Gives c
      (P.Opens (P.config.isRemoteService service)
        (HelloAllowed P.config service ∧ (P.see a c).key ≠ none) c) := by
  unfold unixUserOnlineAuthInit
  simp only [Body.ensures_bind, Body.ensures_get]
  split
  · refine (Asks.of_silent P.delayedInit_calm.idle.silent).then (fun ok c => ?_) c
    split
    · split
      · exact P.initMfa_opens
      · exact P.initDeviceFlow_opens
    · refine (Asks.of_silent P.netDown_calm.idle.silent).then (fun _ c => ?_) c
      exact opens_of (.prompt _ _ (by simp) (.inl rfl))
  · rename_i hpin
    have hallowed : HelloAllowed P.config service ∧ (P.see a c).key ≠ none := by
      refine ⟨fun hremote => ?_, fun hnone => ?_⟩
      · simp only [pinUnavailable, hremote] at hpin
        grind
      · have hfetch : (P.fetchHelloKey a c.keystore).isOk = false := by
          rw [P.fetchHelloKey_eq, hnone]
          rfl
        simp [pinUnavailable, hfetch] at hpin
    refine (Asks.of_silent (.ask _)).then (fun now c => ?_) c
    refine (Asks.of_silent (P.attemptOnline_calm now).idle.silent).then (fun online c => ?_) c
    split
    · exact opens_of (.pin hallowed)
    · exact opens_of (.error _)

theorem himmelblauOfflineAuthInit_opens (passwordAuth : Bool) :
    (P.himmelblauOfflineAuthInit a noHelloPin passwordAuth).Gives c
      (P.Opens false ((P.see a c).key ≠ none) c) := by
  unfold himmelblauOfflineAuthInit
  simp only [Body.ensures_bind, Body.ensures_get]
  split
  · rename_i hpin
    refine opens_of (.pin fun hnone => ?_)
    have hfetch := hpin.1
    rw [P.fetchHelloKey_eq, hnone] at hfetch
    cases hfetch
  · split
    · exact opens_of (.prompt _ _ (by simp) (.inl rfl))
    · exact opens_of (.prompt _ _ (by simp) (.inl rfl))

end HimmelblauProvider

/-! ## 4. Calls as steps of a view -/

/-- `clear_hello_keys`: a refresh token and a TOTP secret stay. -/
def View.clear (v : View) : View :=
  { v with tags := fun t => if t = .refreshToken ∨ t = .totp then v.tags t else none }

section Steps

variable (a : String) (limit : UInt32) (Seals : SealedUnder)

/-- A move, or a token that was validated. -/
inductive Change (own : Option LoadableMsHelloKey) : View → View → Prop
  | move {v v' : View} (h : Move a limit Seals own v v') : Change own v v'
  | validated (v : View) (t : UserToken) : Change own v (v.log (.validated a t))

/-- What the operations of the resolver do to the view of `a`: changes, a new key with the
    changes of the step that stores it, and the removal of all keys.  `may` says which keys
    may be stored. -/
inductive CallStep (may : View → Bool → Prop) : View → View → Prop
  | change {v v' : View} (h : Change a limit Seals none v v') : CallStep may v v'
  | stored {v v' : View} (amrNgcmfa : Bool) (k : LoadableMsHelloKey) (hmay : may v amrNgcmfa)
      (h : ReflTransGen (Change a limit Seals (some k)) (v.store a amrNgcmfa k) v') :
      CallStep may v v'
  | cleared (v : View) : CallStep may v v.clear

end Steps

section Keys

variable {a : String} {limit : UInt32} {Seals : SealedUnder} {own : Option LoadableMsHelloKey}
  {v v' : View}

theorem View.key_bad (v : View) : (v.bad a limit).key = none ∨ (v.bad a limit).key = v.key := by
  unfold View.bad
  dsimp only
  split
  · exact .inl rfl
  · exact .inr rfl

theorem Change.key_eq (h : Change a limit Seals own v v') : v'.key = none ∨ v'.key = v.key := by
  cases h with
  | validated t => exact .inr rfl
  | move h =>
    cases h with
    | mild h => exact .inr (View.key_congr h.tags_eq.1 h.tags_eq.2)
    | bad => exact v.key_bad
    | failed e ha he => exact (v.log e).key_bad
    | totpStored k kt d hk hd => exact .inr rfl

end Keys

namespace HimmelblauProvider

section Calls

variable {P : HimmelblauProvider W} {Seals : SealedUnder} {a b : String} {ks : KeyStore}
  {p : ProviderState W} {may : View → Bool → Prop}

def Calls (P : HimmelblauProvider W) (Seals : SealedUnder) (a : String)
    (may : View → Bool → Prop) (v v' : View) : Prop :=
  ReflTransGen (CallStep a P.config.helloPinRetryCount Seals may) v v'

theorem Outcome.changes {own : Option LoadableMsHelloKey} {old : UserToken} {atOnce : Bool}
    {v v' : View} {r : StepAnswer} (h : Outcome Seals own a old P atOnce v r v') :
    ReflTransGen (Change a P.config.helloPinRetryCount Seals own) v v' := by
  have hmoves : ∀ {v v'}, ReflTransGen (Move a P.config.helloPinRetryCount Seals own) v v' →
      ReflTransGen (Change a P.config.helloPinRetryCount Seals own) v v' :=
    fun h => ReflTransGen.mono (fun _ _ => .move) _ _ h
  cases h with
  | stale h hr => exact hmoves h
  | fresh t v1 h h' hr => exact ((hmoves h).tail (.validated v1 t)).trans (hmoves h')

theorem Calls.of_eq {v v' : View} (h : v' = v) : P.Calls Seals a may v v' := h ▸ .refl

theorem Calls.mono {may' : View → Bool → Prop} (hmay : ∀ v amr, may v amr → may' v amr)
    {v v' : View}
    (h : P.Calls Seals a may v v') : P.Calls Seals a may' v v' := by
  refine ReflTransGen.mono ?_ _ _ h
  intro v v' hstep
  cases hstep with
  | change h => exact .change h
  | stored amr k hk h => exact .stored amr k (hmay v amr hk) h
  | cleared => exact .cleared v

theorem Calls.of_changes {v v' : View}
    (h : ReflTransGen (Change a P.config.helloPinRetryCount Seals none) v v') :
    P.Calls Seals a may v v' :=
  ReflTransGen.mono (fun _ _ => .change) _ _ h

variable {c c' : Ctx W} {oldToken : Option UserToken} {id : Id} {handler : AuthCredHandler}
  {noHelloPin : Bool} {token : UnixUserToken}

theorem Calls.of_watched (h : P.Watched c c') : P.Calls Seals a may (P.see a c) (P.see a c') := by
  refine Calls.of_changes (ReflTransGen.mono ?_ _ _ (h.see a))
  rintro v _ ⟨t, rfl⟩
  exact .validated v t

theorem Others.see_eq (h : P.Others b c c')
    (hb : P.outside.toLowercase b ≠ P.outside.toLowercase a) : P.see a c' = P.see a c :=
  h.see a fun heq => hb heq.symm

variable (P Seals)

theorem unixUserGet_calls (ks : KeyStore) (p : ProviderState W) :
    P.Calls Seals a may (P.view a ks p)
      (P.view a ((entraProvider P).unixUserGet id oldToken ks p).2.1
        ((entraProvider P).unixUserGet id oldToken ks p).2.2) :=
  Calls.of_watched (P.unixUserGet_watched.run ⟨ks, p, .none⟩)

variable {P} in
theorem Silent.view_run {f : Fn W ρ ρ} (hf : P.Silent f) (c : Ctx W) :
    P.see a (f.run c).2 = P.see a c :=
  (hf c).run_of_stays.see a

variable {P} in
theorem Silent.view_runPlain {f : Fn W ρ ρ} (hf : P.Silent f) (ks : KeyStore)
    (p : ProviderState W) : P.view a ks (runPlain f p).2 = P.view a ks p := by
  have hsee := hf.view_run (a := a) ⟨fun _ => none, p, .none⟩
  unfold view
  congr 1
  · exact congrArg View.count hsee
  · exact congrArg View.events hsee

/-- Which keys a step stores: that of a PIN that is being set up. -/
def StepStores (handler : AuthCredHandler) (req : PamAuthRequest) (v : View) :
    View → Bool → Prop :=
  fun v' amrNgcmfa => v' = v ∧ ∃ token pin, handler = .setupPin (some token) ∧
    req = .setupPin pin ∧ amrNgcmfa = token.amrNgcmfa.getD false

theorem unixUserOnlineAuthStep_calls (laws : SealingLaws P Seals) (old : UserToken)
    (service : String) (req : PamAuthRequest)
    (hb : b = a ∨ P.outside.toLowercase b ≠ P.outside.toLowercase a) :
    let r := (entraProvider P).unixUserOnlineAuthStep b old service noHelloPin handler req ks p
    P.Calls Seals a (fun v amr => b = a ∧ StepStores handler req (P.view a ks p) v amr)
      (P.view a ks p) (P.view a r.2.1 r.2.2) := by
  have h := (@unixUserOnlineAuthStep_ends W P Seals b old laws service noHelloPin req
    ⟨ks, p, handler⟩).run
  rcases hb with rfl | hb
  · rcases h with h | ⟨token, pin, k, hh, hreq, -, h⟩
    · exact .of_changes h.2.changes
    · exact .single (.stored _ k ⟨rfl, rfl, token, pin, hh, hreq, rfl⟩ h.changes)
  · have ho : P.Others b ⟨ks, p, handler⟩ _ := h.elim And.left fun ⟨_, _, _, _, _, ho, _⟩ => ho
    exact .of_eq (ho.see_eq hb)

theorem unixUserOfflineAuthStep_calls (laws : SealingLaws P Seals) (token : UserToken)
    (req : PamAuthRequest) (onlineAtInit : Bool)
    (hb : b = a ∨ P.outside.toLowercase b ≠ P.outside.toLowercase a) :
    let r := (entraProvider P).unixUserOfflineAuthStep b token handler req onlineAtInit ks p
    P.Calls Seals a may (P.view a ks p) (P.view a r.2.1 r.2.2) := by
  have h := (himmelblauOfflineAuthStep_ensures none laws token req
    (a := b) (c := ⟨ks, p, handler⟩)).run.1
  rcases hb with rfl | hb
  · exact .of_changes (ReflTransGen.mono (fun _ _ => .move) _ _ h.1)
  · exact .of_eq (h.2.see_eq hb)

theorem changeAuthToken_calls (newTok : String)
    (hb : b = a ∨ P.outside.toLowercase b ≠ P.outside.toLowercase a) :
    let r := (entraProvider P).changeAuthToken b token newTok ks p
    P.Calls Seals a
      (fun v amr => b = a ∧ v = P.view a ks p ∧ token.amrNgcmfa = some amr)
      (P.view a ks p) (P.view a r.2.1 r.2.2) := by
  have h := (changeAuthToken_ensures (P := P) (a := b) (c := ⟨ks, p, .none⟩) token
    newTok).run_of_stays
  rcases h with ⟨hsame, -⟩ | ⟨ho, -, amr, k, hamr, -, hsee⟩
  · exact .of_eq (hsame.see a)
  · rcases hb with rfl | hb
    · exact .single (.stored amr k ⟨rfl, rfl, hamr⟩ (hsee ▸ .refl))
    · exact .of_eq (ho.see_eq hb)

end Calls

end HimmelblauProvider

end Himmelblau.Entra
