/-
  **The rules that a login follows with either provider**: what the init and the steps, online
  and offline, may answer from a credential handler.  Sessions are judged from these rules
  alone, and both providers are shown to follow them.
-/
import Himmelblau.HelloSecrets
import Himmelblau.OidcWalks

namespace Himmelblau.Entra

open Interface Config Msal FunctionBody Ctx

variable {W ρ α : Type}

/-! ## 1. Offline steps -/

/-- What an offline step may answer; `G` are the grounds for anything but a denial. -/
inductive Answered (G : Prop) : Except IdpError AuthResult → Prop
  | error (e : IdpError) : Answered G (.error e)
  | denied (msg : String) : Answered G (.ok (.denied msg))
  | code (msg : String) (hground : G) : Answered G (.ok (.next (.helloTOTP msg)))
  | success (t : UserToken) (hground : G) : Answered G (.ok (.success t))

def OfflineEnds (G : Prop) (c : Ctx W) (r : Except IdpError AuthResult) (c' : Ctx W) : Prop :=
  Still c c' ∧ Answered G r

variable {G : Prop}

variable {c : Ctx W} {r : Except IdpError AuthResult}
  {accepts : String → KeyStore → AuthCredHandler → PamAuthRequest → Prop}

theorem OfflineEnds.after {c1 c' : Ctx W} (h : Still c c1) (h' : OfflineEnds G c1 r c') :
    OfflineEnds G c r c' := ⟨h.trans h'.1, h'.2⟩

namespace HimmelblauProvider

variable (P : HimmelblauProvider W)

variable {a : String} {token : UserToken}

theorem loadCachedPrt_plods (k : LoadableMsHelloKey) (cred : String) :
    Plods (Answered G) (P.loadCachedPrt k a cred) := by
  apply Plods.bind (.of_quiet .getKeystore)
  intro ks
  split
  · exact .pure ()
  · apply Plods.bind (.of_quiet (.ask _))
    intro r
    split
    · exact .leave (.error _)
    · apply Plods.bind (.of_quiet (.ask _))
      intro expired
      split
      · exact .leave (.error _)
      · exact .leave (.denied _)
      · exact .of_quiet (P.refreshCacheAdd_idle _).quiet

theorem loadCachedRefreshToken_plods (key : StorageKey) :
    Plods (Answered G) (P.loadCachedRefreshToken key a) := by
  apply Plods.bind (.of_quiet .getKeystore)
  intro ks
  split
  · exact .pure ()
  · apply Plods.bind (.of_quiet (P.unsealText_calm _ _).idle.quiet)
    intro text
    split
    · exact .leave (.error _)
    · exact .of_quiet (P.refreshCacheAdd_idle _).quiet

theorem offlineSuccess_concludes (hG : G) : Concludes (Answered G) (do
      if P.checkHelloTotpSetup a (← getKeystore) = true ∧ P.config.enableHelloTotp = true then
        return .ok (.next (.helloTOTP helloTotpPrompt))
      else
        log (.success a)
        resetBadPinCount a
        return .ok (.success token) :
        Fn W (Except IdpError AuthResult) (Except IdpError AuthResult)) := by
  apply Concludes.bind (.of_quiet .getKeystore)
  intro ks
  split
  · exact .pure (.code _ hG)
  · exact .bind (.of_quiet (.log _)) fun _ => .bind (.of_quiet (.resetBadPinCount a)) fun _ =>
      .pure (.success token hG)

theorem offlineDenied_concludes :
    Concludes (Answered G) (P.handleHelloBadPinCount a (fun msg => .ok (.denied msg)) >>= fun _ =>
      pure (.ok (.denied "Failed to authenticate with Hello PIN.")) :
      Fn W (Except IdpError AuthResult) (Except IdpError AuthResult)) :=
  .bind (P.handleHelloBadPinCount_plods .denied) fun _ => .pure (.denied _)

theorem tryPin_still (b : String) (k : LoadableMsHelloKey) (pin : PinValue) :
    (P.tryPin b k pin : Fn W ρ _).Ensures c (fun r c' => Still c c' ∧
      (r.isSome = true → ∃ w, (P.outside.msHelloKeyLoad k pin w).1.isSome = true))
      (fun _ _ => False) :=
  ⟨⟨rfl, .log rfl rfl⟩, fun h => ⟨_, h⟩⟩

theorem offlinePin_concludes {cred : String}
    (load : LoadableMsHelloKey → StorageKey →
      Fn W (Except IdpError AuthResult) (Except IdpError AuthResult))
    (hG : ∀ k kt, P.fetchHelloKey a c.keystore = .ok (k, kt) → P.Loads cred k → G)
    (hload : G → ∀ k key, Concludes (Answered G) (load k key)) : (do
      let (helloKey, _) ← Body.orLeave (P.fetchHelloKey a (← getKeystore)) .error
      match P.outside.pinValueNew cred with
      | none => return .error .tpm
      | some pin =>
        match ← P.tryPin a helloKey pin with
        | some winHelloStorageKey => load helloKey winHelloStorageKey
        | none =>
          P.handleHelloBadPinCount a fun msg => .ok (.denied msg)
          return .ok (.denied "Failed to authenticate with Hello PIN.") :
      Fn W (Except IdpError AuthResult) (Except IdpError AuthResult)).Gives c
      (OfflineEnds G c) := by
  rw [Body.Gives, Body.ensures_bind]
  change ((Body.orLeave (P.fetchHelloKey a c.keystore) Except.error >>= _ : Fn W _ _)).Ensures c _ _
  rcases hk : P.fetchHelloKey a c.keystore with e | ⟨k, kt⟩
  · exact ⟨.refl c, .error e⟩
  · change Body.Ensures (match P.outside.pinValueNew cred with
      | none => _
      | some pin => _) c _ _
    split
    · exact ⟨.refl c, .error _⟩
    · next pin hpin =>
      apply (P.tryPin_still a k pin).andThen
      rintro (_ | key) c1 ⟨hstill, hloads⟩
      · exact (P.offlineDenied_concludes c1).mono (fun _ _ h => .after hstill h) fun _ _ h =>
          .after hstill h
      · obtain ⟨w, hw⟩ := hloads rfl
        exact (hload (hG k kt hk ⟨pin, w, hpin, hw⟩) k key c1).mono
          (fun _ _ h => .after hstill h) fun _ _ h => .after hstill h

theorem offlinePin_ends (token : UserToken) (cred : String)
    (hG : ∀ k kt, P.fetchHelloKey a c.keystore = .ok (k, kt) → P.Loads cred k → G) :
    (P.offlinePin a token cred).Gives c (OfflineEnds G c) := by
  apply P.offlinePin_concludes (fun k key => do
    P.loadCachedPrt k a cred
    P.loadCachedRefreshToken key a
    if P.checkHelloTotpSetup a (← getKeystore) = true ∧ P.config.enableHelloTotp = true then
      return .ok (.next (.helloTOTP helloTotpPrompt))
    else
      log (.success a)
      resetBadPinCount a
      return .ok (.success token)) hG
  intro hground k key
  exact .bind (P.loadCachedPrt_plods k cred) fun _ =>
    .bind (P.loadCachedRefreshToken_plods key) fun _ =>
      P.offlineSuccess_concludes hground

theorem handleHelloPinTotpAuth_ends (cred helloPin : String) (pending : Option SealedData)
    (hG : G) : (P.handleHelloPinTotpAuth a token cred helloPin pending id).Gives c
      (OfflineEnds G c) :=
  P.handleHelloPinTotpAuth_concludes pending .error .denied (.success token hG) c

theorem himmelblauOfflineAuthStep_ends (req : PamAuthRequest) :
    (P.himmelblauOfflineAuthStep a token req).Gives c
      (OfflineEnds (P.Grounds a c.keystore c.credHandler req) c) := by
  unfold himmelblauOfflineAuthStep
  rw [Body.Gives, Body.ensures_bind, Body.ensures_get]
  split
  · exact P.offlinePin_ends token _ fun _ _ => P.grounds_pin a c.keystore c.credHandler
  · next h => exact P.handleHelloPinTotpAuth_ends _ _ _ (.inl (by rw [h]; trivial))
  · exact ⟨.refl c, .error _⟩

end HimmelblauProvider

/-! ## 2. Inits -/

/-- What an init may answer: a prompt, with a handler that goes with it. -/
inductive Invites : InitAnswer → Prop
  | error (e : IdpError) : Invites (.error e)
  | asks (d : AuthRequest) (h : AuthCredHandler) (hprompts : Prompts h d)
      (hfresh : isEarned h = false) : Invites (.ok (d, h))

variable {isRemoteService : Bool} {hello : Prop}

theorem Quiet.leaving {X : ρ → Prop} {p : Fn W ρ α} (h : Quiet p) : Body.Leaving X p :=
  .of_stays h

theorem Offers.invites {r : InitAnswer} (h : Offers isRemoteService hello r) : Invites r := by
  cases h with
  | error e => exact .error e
  | prompt d h hpin hnew =>
    rcases hnew with rfl | hmfa
    · exact .asks _ _ trivial rfl
    · exact .asks _ _ (prompts_of_isMfa hmfa d).1 (prompts_of_isMfa hmfa d).2
  | first => exact .asks _ _ rfl rfl
  | pin => exact .asks _ _ trivial rfl

/-! ## 3. The rules -/

def afterStep {β : Type} (r : (β × AuthCredHandler) × KeyStore × ProviderState W) : Ctx W :=
  ⟨r.2.1, r.2.2, r.1.2⟩

/-- What a session relies on; `ev` is what counts as evidence for an account, and `accepts` says
    which requests are taken although the handler is not one for them. -/
structure LoginRules (client : IdProvider (ProviderState W)) (ev : String → Event → Prop)
    (accepts : String → KeyStore → AuthCredHandler → PamAuthRequest → Prop) : Prop where
  init : ∀ a token service noHelloPin forceReauth ks p,
    Invites (client.unixUserOnlineAuthInit a token service noHelloPin forceReauth ks p).1
  offlineInit : ∀ a token noHelloPin ks p,
    Invites (client.unixUserOfflineAuthInit a token noHelloPin ks p).1
  step : ∀ a token service noHelloPin h req ks p r,
    client.unixUserOnlineAuthStep a token service noHelloPin h req ks p = r →
      Leaves (ev a) (Kept h req ∨ accepts a ks h req) False ⟨ks, p, h⟩ r.1.1 (afterStep r)
  offlineStep : ∀ a token h req onlineAtInit ks p r,
    client.unixUserOfflineAuthStep a token h req onlineAtInit ks p = r →
      OfflineEnds (Kept h req ∨ accepts a ks h req) ⟨ks, p, h⟩ r.1.1 (afterStep r)
  cachestate : ∀ a ks p, client.getCachestate a ks p = (p.state, ks, p)

theorem LoginRules.exec_getCachestate {R : Resolver (ProviderState W)}
    {ev : String → Event → Prop} (rules : LoginRules R.client ev accepts) (a : Option String)
    (s : ResolverState (ProviderState W)) :
    ((R.getCachestate a).exec s).2 = s.called s.db.hsmDataT s.client := by
  rw [R.exec_getCachestate, rules.cachestate]

theorem entra_rules (P : HimmelblauProvider W) :
    LoginRules (entraProvider P) Shows P.Accepts where
  init a _ service noHelloPin forceReauth ks p :=
    (P.unixUserOnlineAuthInit_opens service forceReauth).run.2.invites
  offlineInit a _ noHelloPin ks p :=
    (P.himmelblauOfflineAuthInit_opens true).run.2.invites
  step a token service noHelloPin h req ks p := by
    rintro _ rfl
    exact P.unixUserOnlineAuthStep_leaves token service noHelloPin req ⟨ks, p, h⟩
  offlineStep a token h req _ ks p := by
    rintro _ rfl
    exact (P.himmelblauOfflineAuthStep_ends req).run
  cachestate _ _ _ := rfl

end Himmelblau.Entra

namespace Himmelblau.Oidc

open Interface Config Msal FunctionBody Entra Entra.Ctx

variable {W : Type} {G : Prop}

/-! ## 4. The same of the OpenID Connect provider -/

namespace OidcProvider

variable (O : OidcProvider W)

variable {c : Ctx W} {a : String} {token : UserToken}

theorem offlinePin_ends (token : UserToken) (cred : String)
    (hG : ∀ k kt, O.fetchHelloKey a c.keystore = .ok (k, kt) → O.Loads cred k → G) :
    (O.offlinePin a token cred).Gives c (OfflineEnds G c) := by
  apply O.offlinePin_concludes (fun _ key => do
    O.loadCachedRefreshToken key a
    if O.checkHelloTotpSetup a (← getKeystore) = true ∧ O.config.enableHelloTotp = true then
      return .ok (.next (.helloTOTP HimmelblauProvider.helloTotpPrompt))
    else
      log (.success a)
      HimmelblauProvider.resetBadPinCount a
      return .ok (.success token)) hG
  intro hground k key
  exact .bind (O.loadCachedRefreshToken_plods key) fun _ =>
    O.offlineSuccess_concludes hground

theorem unixUserOfflineAuthStep_ends (req : PamAuthRequest) :
    (O.unixUserOfflineAuthStep a token req).Gives c
      (OfflineEnds (O.Grounds a c.keystore c.credHandler req) c) := by
  unfold unixUserOfflineAuthStep
  rw [Body.Gives, Body.ensures_bind, Body.ensures_get]
  split
  · exact O.offlinePin_ends token _ fun _ _ => O.grounds_pin a c.keystore c.credHandler
  · next h => exact O.handleHelloPinTotpAuth_ends _ _ _ (.inl (by rw [h]; trivial))
  · exact ⟨.refl c, .error _⟩

theorem serialize_offers (extra : OidcMfaExtraData) :
    Body.Leaving (Offers isRemoteService hello) (O.serializeOidcMfaExtraData extra .error) := by
  unfold serializeOidcMfaExtraData
  split
  · exact .pure _
  · exact .leave (.error _)

theorem maybeStartOrchestratorFlow_offers (details : DeviceAuthResponse) :
    Body.Leaving (Offers isRemoteService hello) (O.maybeStartOrchestratorFlow a details) := by
  unfold maybeStartOrchestratorFlow
  split
  · split
    · exact .leave (.error _)
    · apply Body.Leaving.bind (O.orchestratorTryStart_calm _ _).idle.quiet.leaving
      intro state
      split
      · exact .pure _
      · apply Body.Leaving.bind (O.serialize_offers _)
        refine fun _ => .leave (.prompt _ _ ?_ (.inr rfl))
        unfold authRequestFromOrchestratorInputs
        split_ifs
        · simp
        · split
          · simp
          · split <;> simp
  · exact .pure _

theorem initDeviceFlow_offers (a : String) :
    Body.Yields (Offers isRemoteService hello) (O.initDeviceFlow a) := by
  apply Body.Yields.bind
  · apply Body.Leaving.bind Quiet.get.leaving
    intro c
    split
    · exact (Quiet.ask _).leaving
    · exact .pure _
  · intro details
    split
    · exact .pure (.error _)
    · apply Body.Yields.bind (O.maybeStartOrchestratorFlow_offers _)
      intro _
      split
      · exact .pure (.error _)
      · apply Body.Yields.bind (O.serialize_offers _)
        exact fun _ => .pure (.prompt _ _ nofun (.inr rfl))

theorem unixUserOnlineAuthInit_offers (a service : String) (noHelloPin forceReauth : Bool) :
    Body.Yields (Offers (O.config.isRemoteService service) (HelloAllowed O.config service))
      (O.unixUserOnlineAuthInit a service noHelloPin forceReauth) := by
  apply Body.Yields.bind O.delayedInit_calm.idle.quiet.leaving
  intro ok
  split
  · apply Body.Yields.bind Quiet.get.leaving
    intro c
    split
    · exact O.initDeviceFlow_offers a
    · next hpin =>
      apply Body.Yields.bind (Quiet.ask _).leaving
      intro now
      apply Body.Yields.bind (O.attemptOnline_calm now).idle.quiet.leaving
      intro up
      split
      · refine .pure (.pin fun hremote => ?_)
        simp only [pinUnavailable, hremote] at hpin
        grind
      · exact .pure (.error _)
  · exact .bind O.netDown_calm.idle.quiet.leaving fun _ => .pure (.prompt _ _ nofun (.inl rfl))

end OidcProvider

theorem oidc_rules (O : OidcProvider W) :
    LoginRules (oidcProvider O) Validated O.Accepts where
  init a _ service noHelloPin forceReauth ks p :=
    ((O.unixUserOnlineAuthInit_offers a service noHelloPin forceReauth).run ⟨ks, p, .none⟩).invites
  offlineInit a _ noHelloPin ks p :=
    (O.himmelblauOfflineAuthInit_opens false).run.2.invites
  step a token service noHelloPin h req ks p := by
    rintro _ rfl
    exact O.unixUserOnlineAuthStep_leaves token noHelloPin req ⟨ks, p, h⟩
  offlineStep a token h req _ ks p := by
    rintro _ rfl
    exact (O.unixUserOfflineAuthStep_ends req).run
  cachestate _ _ _ := rfl

inductive IsProvider : IdProvider (ProviderState W) → (String → Event → Prop) →
    (String → KeyStore → AuthCredHandler → PamAuthRequest → Prop) → Prop
  | entra (P : HimmelblauProvider W) : IsProvider (entraProvider P) Shows P.Accepts
  | oidc (O : OidcProvider W) : IsProvider (oidcProvider O) Validated O.Accepts

variable {accepts : String → KeyStore → AuthCredHandler → PamAuthRequest → Prop}

theorem IsProvider.rules {client : IdProvider (ProviderState W)} {ev : String → Event → Prop}
    (h : IsProvider client ev accepts) : LoginRules client ev accepts := by
  cases h with
  | entra P => exact entra_rules P
  | oidc O => exact oidc_rules O

end Himmelblau.Oidc
