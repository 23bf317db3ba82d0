/-
Clients kept apart.

What a client gets depends on its own tier and on the default tier, and on no other.
Two stores in which these two are alike resolve every name alike for the client, ask the
same questions of the same resolvers and draw the same; so every datagram and every
message on a stream that comes from the client is replied to with the same bytes.

The handlers draw and ask through `query` alone.  Whatever is imitated by the queries of
a client is therefore imitated by its requests, which the first section takes from one
handler to the next.
-/
import SplitHorizon.Proofs.Answers.Loading
import SplitHorizon.Proofs.Resolution.Imitation
import SplitHorizon.Server.Datagram
import SplitHorizon.Server.Stream

namespace SplitHorizon
namespace Server

open Resolution (Imitates Outside)

/-! ## Requests imitate where queries do -/

section

variable {ρ ρ' δ δ' : Type} {see : Outside ρ' δ' → Outside ρ δ} {service : Service ρ' δ'}
  {plain : Service ρ δ} {client : Ip}

theorem imitates_query {name : String}
    (h : Imitates see ((service.resolution (ClientKey.ofIp client)).resolve name AliasChain.empty)
      ((plain.resolution (ClientKey.ofIp client)).resolve name AliasChain.empty)) :
    Imitates see (service.query client name) (plain.query client name) := by
  refine h.bind fun answer => ?_
  rcases answer with _ | _ | ⟨first, rest⟩
  · exact Imitates.pure _
  · exact Imitates.pure _
  · exact Imitates.pure _

variable (hquery : ∀ name, Imitates see (service.query client name) (plain.query client name))

include hquery

theorem imitates_answerQuestion (name : Wire.Name) (kind : UInt16) :
    Imitates see (answerQuestion service client name kind)
      (answerQuestion plain client name kind) := by
  unfold answerQuestion
  split
  · exact Imitates.pure _
  · refine (hquery name.text).bind fun answer => ?_
    cases answer with
    | ok records => exact Imitates.pure _
    | error fault => exact Imitates.pure _

theorem imitates_respond (request : Wire.Message) :
    Imitates see (respond service client request) (respond plain client request) := by
  unfold respond
  split
  · exact Imitates.pure _
  · split
    · exact Imitates.pure _
    · next question _ _ =>
      refine (imitates_answerQuestion hquery question.name question.kind).bind fun answer => ?_
      cases answer with
      | error code => exact Imitates.pure _
      | ok records =>
        cases hreply : answerReply request records with
        | ok reply =>
          simp only [hreply]
          exact Imitates.pure _
        | error fault =>
          simp only [hreply]
          exact Imitates.pure _

theorem imitates_handleDatagram (bytes : List UInt8) :
    Imitates see (handleDatagram service client bytes) (handleDatagram plain client bytes) := by
  unfold handleDatagram
  split
  · exact Imitates.pure _
  · next request _ =>
    split
    · exact Imitates.pure _
    · exact (imitates_respond hquery request).bind fun _ => Imitates.pure _

theorem imitates_streamAnswers (request : Wire.Message) :
    Imitates see (streamAnswers service client request) (streamAnswers plain client request) := by
  unfold streamAnswers
  split
  · exact Imitates.pure _
  · split
    · next question _ =>
      refine (imitates_answerQuestion hquery question.name.lower question.kind).bind
        fun answer => ?_
      cases answer with
      | error code => exact Imitates.pure _
      | ok records =>
        cases hanswers : Wire.answersOf records with
        | ok answers =>
          simp only [hanswers]
          exact Imitates.pure _
        | error fault =>
          simp only [hanswers]
          exact Imitates.pure _
    · exact Imitates.pure _

theorem imitates_handleStream (sendFails : Bool) (bytes : List UInt8) :
    Imitates see (handleStream service client sendFails bytes)
      (handleStream plain client sendFails bytes) := by
  unfold handleStream
  split
  · exact Imitates.pure _
  · next received _ =>
    exact (imitates_streamAnswers hquery received.message).bind fun _ => Imitates.pure _

end

/-! ## Isolation -/

variable {ρ δ : Type} {answers other : Answers} {key : ClientKey}

/-- The service, answering from a store. -/
def Service.serving (service : Service ρ δ) (answers : Answers) : Service ρ δ :=
  { service with answers := answers }

/-- The resolvers to ask come from the two tiers alone. -/
theorem resolversFor_of_alike (hown : (answers.tier key).Alike (other.tier key))
    (hdefault : (answers.tier .default).Alike (other.tier .default)) :
    answers.resolversFor key = other.resolversFor key := by
  unfold Answers.resolversFor
  rw [hdefault.resolvers]
  cases key with
  | default => rfl
  | client ip => simp only [hown.resolvers]

theorem resolve_of_alike {r plain : Resolution ρ δ} (hclient : r.client = plain.client)
    (hdefaultTtl : r.defaultTtl = plain.defaultTtl) (hsource : r.source = plain.source)
    (hdelegate : r.delegate = plain.delegate)
    (hown : (r.answers.tier r.client).Alike (plain.answers.tier r.client))
    (hdefault : (r.answers.tier .default).Alike (plain.answers.tier .default))
    (name : String) (chain : AliasChain) :
    r.resolve name chain = plain.resolve name chain := by
  have hresolvers : r.answers.resolversFor r.client = plain.answers.resolversFor plain.client := by
    rw [resolversFor_of_alike hown hdefault, hclient]
  have hmirrors := Resolution.mirrors_of_resolvers hdefaultTtl hsource hdelegate hresolvers
  exact (hmirrors.resolve hclient (hclient ▸ hown) hdefault name chain).eq

/-- No other client's tier has any influence on what a client gets. -/
theorem client_isolated (service : Service ρ δ)
    (hown : (answers.tier key).Alike (other.tier key))
    (hdefault : (answers.tier .default).Alike (other.tier .default)) :
    (∀ name chain,
      ((service.serving answers).resolution key).resolve name chain =
          ((service.serving other).resolution key).resolve name chain ∧
        ((service.serving answers).resolution key).observed.resolve name chain =
          ((service.serving other).resolution key).observed.resolve name chain) ∧
      ∀ client, ClientKey.ofIp client = key → ∀ bytes,
        handleDatagram (service.serving answers) client bytes =
            handleDatagram (service.serving other) client bytes ∧
          ∀ sendFails, handleStream (service.serving answers) client sendFails bytes =
            handleStream (service.serving other) client sendFails bytes := by
  have hresolve : ∀ name chain, ((service.serving answers).resolution key).resolve name chain =
      ((service.serving other).resolution key).resolve name chain :=
    resolve_of_alike rfl rfl rfl rfl hown hdefault
  have hobserved : ∀ name chain,
      ((service.serving answers).resolution key).observed.resolve name chain =
        ((service.serving other).resolution key).observed.resolve name chain :=
    resolve_of_alike rfl rfl rfl rfl hown hdefault
  refine ⟨fun name chain => ⟨hresolve name chain, hobserved name chain⟩, ?_⟩
  intro client hclient bytes
  subst hclient
  have hquery : ∀ name, Imitates id ((service.serving answers).query client name)
      ((service.serving other).query client name) := by
    intro name
    apply imitates_query
    rw [hresolve name AliasChain.empty]
    exact fun _ => rfl
  exact ⟨(imitates_handleDatagram hquery bytes).eq,
    fun sendFails => (imitates_handleStream hquery sendFails bytes).eq⟩

/-- Two clients that share the default tier. -/
def tenantsText : String :=
  "\x7b\"10.0.0.2\":\x7b\"recurse\":[\"6.6.6.6\"],\"a\":\x7b\"lamp\":\x7b\"answer\":[\"6.6.6.6\"]\x7d\x7d\x7d," ++
    "\"10.0.0.1\":\x7b\"a\":\x7b\"lamp\":\x7b\"answer\":[\"10.0.0.5\"]\x7d," ++
    "\"desk\":\x7b\"answer\":[\"10.0.0.6\"]\x7d\x7d\x7d," ++
    "\"default\":\x7b\"recurse\":[\"9.9.9.9\"]\x7d\x7d"

/-- The first client's names in another order, and somebody else in the place of the
second client. -/
def newTenantsText : String :=
  "\x7b\"10.0.0.1\":\x7b\"a\":\x7b\"desk\":\x7b\"answer\":[\"10.0.0.6\"]\x7d," ++
    "\"lamp\":\x7b\"answer\":[\"10.0.0.5\"]\x7d\x7d\x7d," ++
    "\"default\":\x7b\"recurse\":[\"9.9.9.9\"]\x7d," ++
    "\"10.0.0.3\":\x7b\"cname\":\x7b\"lamp\":\x7b\"answer\":\"desk\"\x7d\x7d\x7d\x7d"

def lampEntry : AddressEntry :=
  { ttl := none, addresses := [⟨10, 0, 0, 5⟩] }

def deskEntry : AddressEntry :=
  { ttl := none, addresses := [⟨10, 0, 0, 6⟩] }

def sharedTier : Tier :=
  { resolvers := ["9.9.9.9"], addresses := [], aliases := [] }

def tenants : Answers where
  clients :=
    [(.v4 ⟨10, 0, 0, 2⟩,
        { resolvers := ["6.6.6.6"]
          addresses := [("lamp.", { ttl := none, addresses := [⟨6, 6, 6, 6⟩] })]
          aliases := [] }),
      (.v4 ⟨10, 0, 0, 1⟩,
        { resolvers := [], addresses := [("lamp.", lampEntry), ("desk.", deskEntry)]
          aliases := [] })]
  default := some sharedTier

def newTenants : Answers where
  clients :=
    [(.v4 ⟨10, 0, 0, 1⟩,
        { resolvers := [], addresses := [("desk.", deskEntry), ("lamp.", lampEntry)]
          aliases := [] }),
      (.v4 ⟨10, 0, 0, 3⟩,
        { resolvers := [], addresses := []
          aliases := [("lamp.", { ttl := none, target := "desk." })] })]
  default := some sharedTier

theorem tenants_alike :
    (tenants.tier (.client (.v4 ⟨10, 0, 0, 1⟩))).Alike
      (newTenants.tier (.client (.v4 ⟨10, 0, 0, 1⟩))) where
  resolvers := rfl
  addresses := by
    intro name
    show List.lookup name [("lamp.", lampEntry), ("desk.", deskEntry)] =
      List.lookup name [("desk.", deskEntry), ("lamp.", lampEntry)]
    by_cases hlamp : name = "lamp."
    · subst hlamp
      rfl
    · have hnot : (name == "lamp.") = false := beq_false_of_ne hlamp
      simp only [List.lookup_cons, List.lookup_nil, hnot]
  aliases := fun _ => rfl

/-- The address of the first client, as it arrives over IPv6. -/
def mappedTenant : Ipv6 where
  groups := [0, 0, 0, 0, 0, 0xffff, 0x0a00, 1]
  length_eq := rfl

/-- The first client is told the same from both stores, which differ for the second. -/
theorem tenants_isolated :
    Answers.load (some tenantsText) = .ok tenants ∧
      Answers.load (some newTenantsText) = .ok newTenants ∧
      tenants.lookup (.client (.v4 ⟨10, 0, 0, 2⟩)) ≠
        newTenants.lookup (.client (.v4 ⟨10, 0, 0, 2⟩)) ∧
      ∀ (service : Service (List Nat) Unit) (bytes : List UInt8),
        handleDatagram (service.serving tenants) (.v6 mappedTenant) bytes =
          handleDatagram (service.serving newTenants) (.v6 mappedTenant) bytes := by
  have hfolded : ClientKey.ofIp (.v6 mappedTenant) = .client (.v4 ⟨10, 0, 0, 1⟩) := by rfl
  refine ⟨by decide +kernel, by decide +kernel, by decide, fun service bytes => ?_⟩
  exact ((client_isolated service tenants_alike (Tier.Alike.refl _)).2 _ hfolded bytes).1

end Server
end SplitHorizon
