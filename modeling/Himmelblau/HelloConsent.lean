/-
  **Who consents to a new Hello key** when a client of the socket sends a
  `PamChangeAuthToken`.

  The tokens that the identity provider has accepted are a history of the world, which
  no function reads.  Provisioning a Hello for Business key shows it the token that the
  client sent.  A decoupled key is made by the TPM alone, and which of the two it is
  depends on a claim inside the token, which is only decoded.
-/
import Himmelblau.Daemon
import Himmelblau.ResolverExec

namespace Himmelblau

open Interface LockProgram FunctionBody Entra Ctx Msal

variable {W ρ : Type}

namespace Entra

/-! ## 1. The history of accepted tokens -/

/-- `accepted` is a history of the world: a provisioning that succeeds adds the token it was
    asked with, and what else `change_auth_token` calls adds nothing. -/
structure ConsentLaws (O : Outside W) (accepted : W → List UnixUserToken) : Prop where
  provision : ∀ token pin w k w', O.provisionHelloForBusinessKey token pin w = (.ok k, w') →
    accepted w' = token :: accepted w
  now : ∀ w, accepted (O.now w).2 = accepted w
  discoverTenant : ∀ w, accepted (O.discoverTenant w).2 = accepted w
  writeServerConfig : ∀ w, accepted (O.writeServerConfig w).2 = accepted w
  probeAuthorityHost : ∀ w, accepted (O.probeAuthorityHost w).2 = accepted w
  msHelloKeyCreate : ∀ pin w, accepted (O.msHelloKeyCreate pin w).2 = accepted w

namespace HimmelblauProvider

variable (P : HimmelblauProvider W)

/-- The first part of `change_auth_token`: initialised, and online. -/
def reachesProvider : Fn W ρ Bool := do
  if ← P.delayedInit then
    let now ← ask P.outside.now
    P.checkOnline now
  else return false

def setNewKey (accountId : String) (token : UnixUserToken)
    (newTok : String) : Fn W (Except IdpError Bool) (Except IdpError Bool) := do
  match token.amrNgcmfa with
  | none => return .error (.notFound "NGC MFA authorization in UnixUserToken"
      ("access token (" ++ token.tokenType ++ ")"))
  | some amrNgcmfa =>
    match token.spn with
    | none => return .error .badRequest
    | some spn =>
      if P.outside.toLowercase accountId ≠ P.outside.toLowercase spn then
        return .error .badRequest
      else
        match ← P.provisionOrCreateHelloKey token amrNgcmfa newTok with
        | none => return .error .tpm
        | some helloKey =>
          P.storeHelloKey accountId amrNgcmfa helloKey
          return .ok true

variable {P : HimmelblauProvider W} {a newTok : String} {token : UnixUserToken} {c : Ctx W}
  {accepted : W → List UnixUserToken}

theorem changeAuthToken_apply (c : Ctx W) :
    P.changeAuthToken a token newTok c =
      match P.reachesProvider c with
      | (.ok true, c1) => P.setNewKey a token newTok c1
      | (.ok false, c1) => (.ok (.error .badRequest), c1)
      | (.error r, c1) => (.error r, c1) := by
  unfold changeAuthToken reachesProvider
  simp only [Body.bind_apply]
  rcases P.delayedInit c with ⟨_ | _ | _, c1⟩
  · rfl
  · rfl
  · simp only [if_true, Body.bind_apply]
    rcases (ask P.outside.now : Fn W (Except IdpError Bool) ℕ) c1 with ⟨_ | now, c2⟩
    · rfl
    · rcases hcheck : (P.checkOnline now : Fn W (Except IdpError Bool) Bool) c2 with ⟨_ | _ | _, c3⟩
      · simp only [hcheck]
      · simp only [hcheck]
        rfl
      · simp only [hcheck]
        rfl

def NoTrace (accepted : W → List UnixUserToken) (c c' : Ctx W) : Prop :=
  c'.keystore = c.keystore ∧ accepted c'.provider.world = accepted c.provider.world

instance : Std.Refl (NoTrace accepted) := ⟨fun _ => ⟨rfl, rfl⟩⟩

instance : IsTrans (Ctx W) (NoTrace accepted) :=
  ⟨fun _ _ _ h h' => ⟨h'.1.trans h.1, h'.2.trans h.2⟩⟩

theorem noTrace_reachesProvider (laws : ConsentLaws P.outside accepted) :
    Body.Within (NoTrace accepted) (P.reachesProvider : Fn W ρ Bool) := by
  have hask : ∀ {α : Type} (f : Ext W α), (∀ w, accepted (f w).2 = accepted w) →
      Body.Within (NoTrace accepted) (ask f : Fn W ρ α) := fun f h c => ⟨rfl, h _⟩
  have hmodify : ∀ u : Ctx W → Ctx W, (∀ c, NoTrace accepted c (u c)) →
      Body.Within (NoTrace accepted) (Body.modify u : Fn W ρ Unit) := fun u h c => h c
  have hset : ∀ state, Body.Within (NoTrace accepted) (setState state : Fn W ρ Unit) :=
    fun _ _ => ⟨rfl, rfl⟩
  have hget : Body.Within (NoTrace accepted) (Body.get : Fn W ρ (Ctx W)) := fun c => ⟨rfl, rfl⟩
  have hinit : Body.Within (NoTrace accepted) (P.delayedInit : Fn W ρ Bool) := by
    refine hget.bind fun c => ?_
    split
    · exact .pure _
    · refine (hask _ laws.discoverTenant).bind fun tenant => ?_
      split
      · exact .pure _
      · apply Body.Within.bind
        · exact hmodify _ fun c => ⟨rfl, rfl⟩
        · exact fun _ => (hask _ laws.writeServerConfig).bind fun _ => .pure _
  have hattempt : ∀ now, Body.Within (NoTrace accepted) (P.attemptOnline now : Fn W ρ Bool) := by
    intro now
    refine (hask _ laws.probeAuthorityHost).bind fun up => ?_
    split
    · exact (hset _).bind fun _ => .pure _
    · exact (hset _).bind fun _ => .pure _
  refine hinit.bind fun ok => ?_
  split
  · refine (hask _ laws.now).bind fun now => ?_
    refine hget.bind fun c => ?_
    split
    · exact .pure _
    · split
      · exact hattempt now
      · exact .pure _
    · exact .pure _
  · exact .pure _

/-! ## 2. What the rest of a request does -/

def ClaimsAccount (a : String) (token : UnixUserToken) : Prop :=
  ∃ spn, token.spn = some spn ∧ P.outside.toLowercase a = P.outside.toLowercase spn

def CreatesKey (newTok : String) (w : W) (k : LoadableMsHelloKey) : Prop :=
  ∃ pin, P.outside.pinValueNew newTok = some pin ∧ (P.outside.msHelloKeyCreate pin w).1 = some k

inductive NewKey (P : HimmelblauProvider W) (accepted : W → List UnixUserToken) (a newTok : String)
    (token : UnixUserToken) (c c' : Ctx W) : Prop
  | none (h : c'.keystore = c.keystore)
  | provisioned (k : LoadableMsHelloKey) (hspn : P.ClaimsAccount a token)
      (hks : c'.keystore = Function.update c.keystore (P.fetchHelloKeyTag a true)
        (some (.helloKey k)))
      (haccepted : accepted c'.provider.world = token :: accepted c.provider.world)
  | created (k : LoadableMsHelloKey) (hamr : token.amrNgcmfa = some false)
      (hspn : P.ClaimsAccount a token) (hk : P.CreatesKey newTok c.provider.world k)
      (hks : c'.keystore = Function.update c.keystore (P.fetchHelloKeyTag a false)
        (some (.helloKey k)))

theorem setNewKey_ensures (laws : ConsentLaws P.outside accepted) :
    (P.setNewKey a token newTok).Gives c (fun _ c' => NewKey P accepted a newTok token c c') := by
  unfold setNewKey
  split
  · exact .none rfl
  · rename_i amrNgcmfa hamr
    split
    · exact .none rfl
    · rename_i spn hspn
      split
      · exact .none rfl
      · rename_i hsame
        have hclaims : P.ClaimsAccount a token := ⟨spn, hspn, not_not.mp hsame⟩
        unfold provisionOrCreateHelloKey
        cases amrNgcmfa with
        | true =>
          simp only [if_true, Body.ensures_bind, ask, Body.ensures_call]
          rcases hcall : P.outside.provisionHelloForBusinessKey token newTok c.provider.world with
            ⟨_ | k, w⟩
          · exact .none rfl
          · exact .provisioned k hclaims rfl (laws.provision _ _ _ _ _ hcall)
        | false =>
          unfold createDecoupledHelloKey
          simp only [Bool.false_eq_true, if_false]
          cases hpin : P.outside.pinValueNew newTok with
          | none => exact .none rfl
          | some pin =>
            simp only [Body.ensures_bind, ask, Body.ensures_call]
            rcases hcall : P.outside.msHelloKeyCreate pin c.provider.world with ⟨_ | k, w⟩
            · exact .none rfl
            · exact .created k hamr hclaims ⟨pin, hpin, by rw [hcall]⟩ rfl

theorem setNewKey_created (laws : ConsentLaws P.outside accepted) {k : LoadableMsHelloKey}
    (hamr : token.amrNgcmfa = some false) (hspn : P.ClaimsAccount a token)
    (hk : P.CreatesKey newTok c.provider.world k) :
    (P.setNewKey a token newTok).Ensures c
      (fun _ c' => c'.keystore = Function.update c.keystore (P.fetchHelloKeyTag a false)
        (some (.helloKey k)) ∧ accepted c'.provider.world = accepted c.provider.world)
      (fun _ _ => False) := by
  obtain ⟨spn, hspn, hsame⟩ := hspn
  obtain ⟨pin, hpin, hcreate⟩ := hk
  rcases hcall : P.outside.msHelloKeyCreate pin c.provider.world with ⟨key, w⟩
  obtain rfl : key = some k := by
    rw [hcall] at hcreate
    exact hcreate
  have hw := laws.msHelloKeyCreate pin c.provider.world
  rw [hcall] at hw
  simp only [setNewKey, hamr, hspn, hsame, ne_eq, not_true_eq_false, if_false,
    provisionOrCreateHelloKey, Bool.false_eq_true, createDecoupledHelloKey, hpin,
    Body.ensures_bind, ask, Body.ensures_call, hcall]
  exact ⟨rfl, hw⟩

/-! ## 3. Consent -/

structure MakesLocalKey (P : HimmelblauProvider W) (a newTok : String) (token : UnixUserToken)
    (c : Ctx W) : Prop where
  amrNgcmfa : token.amrNgcmfa = some false
  claimsAccount : P.ClaimsAccount a token
  creates : ∃ c1 k, (P.reachesProvider : Fn W (Except IdpError Bool) Bool) c = (.ok true, c1) ∧
    P.CreatesKey newTok c1.provider.world k ∧
    c.keystore (P.fetchHelloKeyTag a false) ≠ some (.helloKey k)

/-- If a key of the account has changed, then the token that claims the account was accepted. -/
def Consented (accepted : W → List UnixUserToken) (a : String)
    (token : UnixUserToken) (c c' : Ctx W) : Prop :=
  (∃ amrNgcmfa, c'.keystore (P.fetchHelloKeyTag a amrNgcmfa) ≠
      c.keystore (P.fetchHelloKeyTag a amrNgcmfa)) →
    ∃ new, accepted c'.provider.world = new ++ accepted c.provider.world ∧ token ∈ new ∧
      P.ClaimsAccount a token

theorem consented_of_keystore {c' : Ctx W} (h : c'.keystore = c.keystore) :
    P.Consented accepted a token c c' := by
  rintro ⟨amrNgcmfa, hchanged⟩
  rw [h] at hchanged
  exact absurd rfl hchanged

theorem reachesProvider_apply (laws : ConsentLaws P.outside accepted) {r : Except ρ Bool}
    {c1 : Ctx W} (h : (P.reachesProvider : Fn W ρ Bool) c = (r, c1)) : NoTrace accepted c c1 := by
  have hwithin := noTrace_reachesProvider (ρ := ρ) laws c
  unfold Body.Ensures at hwithin
  rw [h] at hwithin
  cases r with
  | error r => exact hwithin
  | ok b => exact hwithin

theorem consented_of_newKey {c1 c' : Ctx W}
    (hreach : (P.reachesProvider : Fn W (Except IdpError Bool) Bool) c = (.ok true, c1))
    (hnot : ¬ P.MakesLocalKey a newTok token c) (hsame : NoTrace accepted c c1)
    (h : NewKey P accepted a newTok token c1 c') : P.Consented accepted a token c c' := by
  cases h with
  | none h => exact consented_of_keystore (h.trans hsame.1)
  | provisioned k hspn hks haccepted =>
    intro hchanged
    refine ⟨[token], ?_, List.mem_singleton_self token, hspn⟩
    rw [haccepted, hsame.2]
    rfl
  | created k hamr hspn hk hks =>
    -- the key can only be the one that is stored already
    apply consented_of_keystore
    by_contra hchanged
    apply hnot
    refine ⟨hamr, hspn, c1, k, hreach, hk, ?_⟩
    intro hold
    apply hchanged
    rw [hks, hsame.1, ← hold, Function.update_eq_self]

theorem changeAuthToken_consented_iff (laws : ConsentLaws P.outside accepted) (a newTok : String)
    (token : UnixUserToken) (c : Ctx W) :
    P.Consented accepted a token c ((P.changeAuthToken a token newTok).run c).2 ↔
      ¬ P.MakesLocalKey a newTok token c := by
  constructor
  · rintro hconsented ⟨hamr, hspn, c1, k, hreach, hk, hnew⟩
    obtain ⟨hks1, hw1⟩ := reachesProvider_apply laws hreach
    have hset : (P.changeAuthToken a token newTok).Ensures c
        (fun _ c' => c'.keystore = Function.update c.keystore (P.fetchHelloKeyTag a false)
          (some (.helloKey k)) ∧ accepted c'.provider.world = accepted c.provider.world)
        (fun _ _ => False) := by
      unfold Body.Ensures
      rw [changeAuthToken_apply, hreach, ← hks1, ← hw1]
      exact setNewKey_created laws hamr hspn hk
    obtain ⟨hks, hw⟩ := hset.run_of_stays
    have hchanged : ((P.changeAuthToken a token newTok).run c).2.keystore
        (P.fetchHelloKeyTag a false) ≠ c.keystore (P.fetchHelloKeyTag a false) := by
      rw [hks, Function.update_self]
      exact hnew.symm
    obtain ⟨new, hgrown, htoken, -⟩ := hconsented ⟨false, hchanged⟩
    rw [hw, List.self_eq_append_left] at hgrown
    rw [hgrown] at htoken
    cases htoken
  · intro hnot
    have hset : (P.changeAuthToken a token newTok).Gives c
        (fun _ c' => P.Consented accepted a token c c') := by
      unfold Body.Gives Body.Ensures
      rw [changeAuthToken_apply]
      rcases hreach : (P.reachesProvider : Fn W (Except IdpError Bool) Bool) c with
        ⟨r | _ | _, c1⟩
      · exact consented_of_keystore (reachesProvider_apply laws hreach).1
      · exact consented_of_keystore (reachesProvider_apply laws hreach).1
      · have hconsented : ∀ c', NewKey P accepted a newTok token c1 c' →
            P.Consented accepted a token c c' := fun c' =>
          consented_of_newKey hreach hnot (reachesProvider_apply laws hreach)
        exact Body.Ensures.mono (setNewKey_ensures laws) (fun _ => hconsented) fun _ => hconsented
    exact hset.run

end HimmelblauProvider

end Entra

namespace Daemon

variable {accepted : W → List UnixUserToken}

def ctxOf (s : ResolverState (ProviderState W)) : Ctx W := ⟨s.db.hsmDataT, s.client, .none⟩

/-- **A Hello key is only replaced with the identity provider's consent** exactly if the request
    does not have the TPM make a decoupled key: nothing but the text of the token is asked for
    one. -/
theorem hello_key_consented_iff (D : Daemon W) (laws : ConsentLaws D.provider.outside accepted)
    (uid : UInt32) (session : Option AuthSession)
    (accountId accessToken refreshToken newPin : String) (s : ResolverState (ProviderState W)) :
    D.provider.Consented accepted (D.toLowercase accountId) (D.tokenOf accessToken refreshToken)
        (ctxOf s) (ctxOf ((D.handleClient uid session
          (.pamChangeAuthToken accountId accessToken refreshToken newPin)).exec s).2) ↔
      Resolver.inNxset s.nxset (some (D.toLowercase accountId)) none = true ∨
        ¬ D.provider.MakesLocalKey (D.toLowercase accountId) newPin
          (D.tokenOf accessToken refreshToken) (ctxOf s) := by
  have hiff := HimmelblauProvider.changeAuthToken_consented_iff laws (D.toLowercase accountId)
    newPin (D.tokenOf accessToken refreshToken) (ctxOf s)
  unfold handleClient
  rw [Prog.exec_bind, Prog.exec_pure, Resolver.exec_changeAuthToken]
  split
  · rename_i hlocal
    refine iff_of_true ?_ (.inl hlocal)
    exact HimmelblauProvider.consented_of_keystore rfl
  · rename_i hlocal
    rw [D.client_eq, or_iff_right hlocal, ← hiff]
    rfl

end Daemon

/-- The sample world, which remembers the tokens it was asked to provision a key with. -/
def consentOutside : Outside (List UnixUserToken) :=
  { sampleOutside with
    provisionHelloForBusinessKey := fun token pin w => (.ok ⟨pin⟩, token :: w) }

theorem consentOutside_laws : ConsentLaws consentOutside id where
  provision := by
    rintro token pin w k w' ⟨⟩
    rfl
  now _ := rfl
  discoverTenant _ := rfl
  writeServerConfig _ := rfl
  probeAuthorityHost _ := rfl
  msHelloKeyCreate _ _ := rfl

def consentProvider : HimmelblauProvider (List UnixUserToken) where
  domain := "example.com"
  config := sampleConfig 3 false
  outside := consentOutside

def consentDaemon : Daemon (List UnixUserToken) where
  provider := consentProvider
  resolver := { outageResolver with client := entraProvider consentProvider }
  client_eq := rfl
  tokenOf accessToken _ := sampleToken (accessToken == "mfa")
  logonScript := false
  logonTokenScopes := []
  logonTokenAppId _ := none
  sudoGroups := []

def consentState : ResolverState (ProviderState (List UnixUserToken)) :=
  { (sampleState .online aliceKeystore).resolver with
    client := { sampleProviderState .online with world := [] } }

/-- Somebody with the uid 1001 sends the text of a token, and the PIN `"222222"`. -/
def consentChange (accessToken : String) : Ctx (List UnixUserToken) :=
  Daemon.ctxOf ((consentDaemon.handleClient 1001 none
    (.pamChangeAuthToken "alice@example.com" accessToken "" "222222")).exec consentState).2

theorem hello_key_consented_alice :
    (consentChange "mfa").keystore "alice@example.com/hello" = some (.helloKey ⟨"222222"⟩) ∧
      ∃ new, (consentChange "mfa").provider.world = new ++ [] ∧ sampleToken true ∈ new := by
  have hstored : (consentChange "mfa").keystore "alice@example.com/hello" =
      some (.helloKey ⟨"222222"⟩) := by decide +kernel
  have hconsented := (consentDaemon.hello_key_consented_iff consentOutside_laws 1001 none
    "alice@example.com" "mfa" "" "222222" consentState).mpr (.inr fun h => nomatch h.amrNgcmfa)
  have hchanged : (consentChange "mfa").keystore "alice@example.com/hello" ≠
      aliceKeystore "alice@example.com/hello" := by decide +kernel
  obtain ⟨new, hgrown, htoken, -⟩ := hconsented ⟨true, hchanged⟩
  exact ⟨hstored, new, hgrown, htoken⟩

/-- The text of a token without the claim is enough for a decoupled key, of which the identity
    provider knows nothing. -/
theorem hello_key_not_consented :
    (consentChange "text").keystore "alice@example.com/hello_decoupled" =
        some (.helloKey ⟨"222222"⟩) ∧
      aliceKeystore "alice@example.com/hello_decoupled" = none ∧
      (consentChange "text").provider.world = [] ∧
      ¬ consentDaemon.provider.Consented id "alice@example.com" (sampleToken false)
        (Daemon.ctxOf consentState) (consentChange "text") := by
  have hstored : (consentChange "text").keystore "alice@example.com/hello_decoupled" =
      some (.helloKey ⟨"222222"⟩) := by decide +kernel
  have hnone : aliceKeystore "alice@example.com/hello_decoupled" = none := by decide +kernel
  have hworld : (consentChange "text").provider.world = [] := by decide +kernel
  refine ⟨hstored, hnone, hworld, ?_⟩
  intro hconsented
  have hchanged : (consentChange "text").keystore "alice@example.com/hello_decoupled" ≠
      aliceKeystore "alice@example.com/hello_decoupled" := by
    rw [hstored, hnone]
    exact Option.some_ne_none _
  obtain ⟨new, hgrown, htoken, -⟩ := hconsented ⟨false, hchanged⟩
  rw [id, hworld] at hgrown
  rw [(List.append_eq_nil_iff.mp hgrown.symm).1] at htoken
  cases htoken

end Himmelblau
