/-
Resolutions that do the same.

A resolution meets what is outside in two places only, where it draws and where it
asks.  Two resolutions that draw alike, ask alike and find the same in their tiers
therefore do the same, whatever else their answers hold.  `Imitates` says so of two
actions, `Mirrors` is what two resolutions need for it, and `Mirrors.resolve` carries it
through the recursion over the aliases.

The two need not live in the same world.  What is outside of the one is looked at
through `see`, which may leave out a record kept on the side or a disturbance that goes
on elsewhere.  `observed` keeps such a record, of every bound that is drawn below and of
every question that is asked, so that an equality between observed resolutions is one of
their draws and questions as well.

A client with nothing of its own is where this leads first: it is answered as the
default client is.
-/
import SplitHorizon.Proofs.Resolution.Direct

namespace SplitHorizon

/-- The tiers list the same resolvers and find the same entries.  In which order they
keep the entries is left open. -/
structure Tier.Alike (tier other : Tier) : Prop where
  resolvers : tier.resolvers = other.resolvers
  addresses : ∀ name, tier.addressesOf? name = other.addressesOf? name
  aliases : ∀ name, tier.aliasOf? name = other.aliasOf? name

theorem Tier.Alike.refl (tier : Tier) : tier.Alike tier :=
  ⟨rfl, fun _ => rfl, fun _ => rfl⟩

/-- A shuffle whose draws are seen through `see` comes out the same. -/
theorem Shuffle.shuffle_of_draw {α ρ ρ' : Type} {source : IndexSource ρ}
    {source' : IndexSource ρ'} {see : ρ' → ρ}
    (hdraw : ∀ upper s,
      source.draw upper (see s) = ((source'.draw upper s).1, see (source'.draw upper s).2))
    (items : List α) (s : ρ') :
    shuffle source items (see s) =
      ((shuffle source' items s).1, see (shuffle source' items s).2) := by
  suffices h : ∀ (items placed : List α) (s : ρ'), placeAll source placed items (see s) =
      ((placeAll source' placed items s).1, see (placeAll source' placed items s).2) from
    h items [] s
  intro items
  induction items with
  | nil => intro placed s; rfl
  | cons item rest ih =>
    intro placed s
    simp only [placeAll, hdraw]
    exact ih _ _

namespace Resolution

variable {ρ ρ' δ δ' : Type} {see : Outside ρ' δ' → Outside ρ δ}

/-! ## Actions -/

/-- The action does in its world what the plain one does in the world seen from
there. -/
def Imitates {α : Type} (see : Outside ρ' δ' → Outside ρ δ) (act : Act ρ' δ' α)
    (plain : Act ρ δ α) : Prop :=
  ∀ outside, plain (see outside) = ((act outside).1, see (act outside).2)

theorem Imitates.pure {α : Type} (a : α) :
    Imitates see (Pure.pure a : Act ρ' δ' α) (Pure.pure a) :=
  fun _ => rfl

theorem Imitates.bind {α β : Type} {act : Act ρ' δ' α} {plain : Act ρ δ α}
    {next : α → Act ρ' δ' β} {plainNext : α → Act ρ δ β} (h : Imitates see act plain)
    (hnext : ∀ a, Imitates see (next a) (plainNext a)) :
    Imitates see (act >>= next) (plain >>= plainNext) := by
  intro outside
  rw [bind_apply, bind_apply, h outside]
  exact hnext _ _

theorem Imitates.map {α β : Type} {act : Act ρ' δ' α} {plain : Act ρ δ α} (f : α → β)
    (h : Imitates see act plain) : Imitates see (f <$> act) (f <$> plain) := by
  intro outside
  rw [map_apply, map_apply, h outside]

theorem Imitates.eq {α : Type} {act plain : Act ρ δ α} (h : Imitates id act plain) :
    act = plain := by
  funext outside
  exact (h outside).symm

/-! ## Resolutions -/

/-- The resolution draws and asks as the plain one does, and serves the same TTL where
none is configured. -/
structure Mirrors (see : Outside ρ' δ' → Outside ρ δ) (r : Resolution ρ' δ')
    (plain : Resolution ρ δ) : Prop where
  defaultTtl : r.defaultTtl = plain.defaultTtl
  shuffled : ∀ records, Imitates see (r.shuffled records) (plain.shuffled records)
  asked : ∀ fqdn, Imitates see (r.asked fqdn) (plain.asked fqdn)

/-- With one source and one delegate it is enough to be sent to the same resolvers. -/
theorem mirrors_of_resolvers {r plain : Resolution ρ δ}
    (hdefaultTtl : r.defaultTtl = plain.defaultTtl) (hsource : r.source = plain.source)
    (hdelegate : r.delegate = plain.delegate)
    (hresolvers : r.answers.resolversFor r.client = plain.answers.resolversFor plain.client) :
    Mirrors id r plain where
  defaultTtl := hdefaultTtl
  shuffled := by
    intro records outside
    simp only [shuffled, hsource, id]
  asked := by
    intro fqdn outside
    simp only [asked, hdelegate, hresolvers, id]

namespace Mirrors

variable {r : Resolution ρ' δ'} {plain : Resolution ρ δ} {tier other : Tier}
  {beyond : Nat → String → Act ρ' δ' (Option (List Record))}
  {plainBeyond : Nat → String → Act ρ δ (Option (List Record))}

theorem addressRecords (h : Mirrors see r plain) (htier : tier.Alike other) (fqdn : String) :
    r.addressRecords tier fqdn = plain.addressRecords other fqdn := by
  rw [Resolution.addressRecords, Resolution.addressRecords, htier.addresses, h.defaultTtl]

theorem direct (h : Mirrors see r plain) (htier : tier.Alike other)
    (hbeyond : ∀ room fqdn, Imitates see (beyond room fqdn) (plainBeyond room fqdn))
    (room : Nat) (fqdn : String) :
    Imitates see (r.direct tier beyond room fqdn) (plain.direct other plainBeyond room fqdn) := by
  unfold Resolution.direct
  rw [h.addressRecords htier]
  split
  · exact hbeyond room fqdn
  · exact (h.shuffled _).map some

/-- The walk along the aliases of a tier, by induction on the room that is left. -/
theorem inTier (h : Mirrors see r plain) (htier : tier.Alike other)
    (hbeyond : ∀ room fqdn, Imitates see (beyond room fqdn) (plainBeyond room fqdn))
    (room : Nat) (fqdn : String) :
    Imitates see (r.inTier tier beyond room fqdn) (plain.inTier other plainBeyond room fqdn) := by
  induction room generalizing fqdn with
  | zero => exact Imitates.pure none
  | succ room ih =>
    have hdirect := h.direct htier hbeyond (room + 1) fqdn
    rw [Resolution.inTier, Resolution.inTier, htier.aliases, h.defaultTtl]
    cases other.aliasOf? fqdn with
    | none => exact hdirect
    | some entry =>
      by_cases hself : Fqdn.normalize entry.target = fqdn
      · simp only [if_pos hself]
        exact Imitates.pure none
      · simp only [if_neg hself]
        refine (ih (Fqdn.normalize entry.target)).bind fun answer => ?_
        rcases answer with _ | _ | ⟨first, rest⟩
        · exact hdirect
        · exact hdirect
        · exact Imitates.pure _

theorem beyondDefault (h : Mirrors see r plain) (room : Nat) (fqdn : String) :
    Imitates see (r.beyondDefault room fqdn) (plain.beyondDefault room fqdn) := by
  unfold Resolution.beyondDefault
  split
  · exact h.asked fqdn
  · exact Imitates.pure none

theorem inDefault (h : Mirrors see r plain)
    (hdefault : (r.answers.tier .default).Alike (plain.answers.tier .default))
    (room : Nat) (fqdn : String) :
    Imitates see (r.inDefault room fqdn) (plain.inDefault room fqdn) :=
  h.inTier hdefault h.beyondDefault room fqdn

/-- Two resolutions for one client do the same if their tiers for this client and their
default tiers are alike. -/
theorem resolve (h : Mirrors see r plain) (hclient : r.client = plain.client)
    (hown : (r.answers.tier r.client).Alike (plain.answers.tier plain.client))
    (hdefault : (r.answers.tier .default).Alike (plain.answers.tier .default))
    (name : String) (chain : AliasChain) :
    Imitates see (r.resolve name chain) (plain.resolve name chain) := by
  have hshared := h.inDefault hdefault
  have hinOwn := h.inTier hown fun _ fqdn => hshared maxHops fqdn
  unfold Resolution.resolve
  rw [hclient]
  cases plain.client with
  | default => exact hshared _ _
  | client _ => exact hinOwn _ _

end Mirrors

/-! ## Resolutions under observation -/

/-- The same resolution, which also writes down below which bounds it draws and what it
asks. -/
def observed (r : Resolution ρ δ) : Resolution (ρ × List Nat) (δ × List DelegateCall) where
  answers := r.answers
  client := r.client
  defaultTtl := r.defaultTtl
  source := r.source.recorded
  delegate := r.delegate.recorded

/-- What is outside, without the records. -/
def unobserved (outside : Outside (ρ × List Nat) (δ × List DelegateCall)) : Outside ρ δ where
  random := outside.random.1
  delegate := outside.delegate.1

/-- Being observed changes nothing about a resolution. -/
theorem imitates_observed (r : Resolution ρ δ) (name : String) (chain : AliasChain) :
    Imitates unobserved (r.observed.resolve name chain) (r.resolve name chain) := by
  have hmirrors : Mirrors unobserved r.observed r :=
    { defaultTtl := rfl
      shuffled := by
        intro records outside
        have hdraw : ∀ (upper : Nat) (s : ρ × List Nat), r.source.draw upper s.1 =
            ((r.source.recorded.draw upper s).1, (r.source.recorded.draw upper s).2.1) :=
          fun _ _ => rfl
        have hshuffle := Shuffle.shuffle_of_draw hdraw records outside.random
        simp only [shuffled, observed, unobserved, hshuffle]
      asked := fun _ _ => rfl }
  exact hmirrors.resolve rfl (Tier.Alike.refl _) (Tier.Alike.refl _) name chain

/-! ## Clients with nothing of their own -/

/-- The resolution on behalf of nobody in particular. -/
def forDefault (r : Resolution ρ δ) : Resolution ρ δ :=
  { r with client := .default }

end Resolution

/-- The client has no tier, or one that lists no resolvers and has neither an alias nor
an address for the name.  Of other names it may say anything. -/
def Answers.NothingOwn (answers : Answers) (client : ClientKey) (name : String) : Prop :=
  ∀ tier, answers.lookup client = some tier →
    tier.resolvers = [] ∧ tier.aliasOf? name = none ∧
      ∀ entry, tier.addressesOf? name = some entry → entry.addresses = []

namespace Resolution

variable {ρ δ : Type} {r : Resolution ρ δ} {name : String}

theorem tier_of_nothingOwn {answers : Answers} {client : ClientKey}
    (h : answers.NothingOwn client name) :
    (answers.tier client).resolvers = [] ∧ (answers.tier client).aliasOf? name = none ∧
      ∀ entry, (answers.tier client).addressesOf? name = some entry → entry.addresses = [] := by
  cases hlookup : answers.lookup client with
  | none =>
    rw [Answers.tier_eq_empty hlookup]
    exact ⟨rfl, rfl, fun _ hentry => nomatch hentry⟩
  | some tier =>
    have htier : answers.tier client = tier := by
      rw [Answers.tier, hlookup]
      rfl
    rw [htier]
    exact h tier hlookup

theorem resolversFor_default (answers : Answers) :
    answers.resolversFor .default = (answers.tier .default).resolvers :=
  List.nil_append _

/-- The resolvers for a client without any of its own are everybody's, each as often as
it is listed there. -/
theorem resolversFor_of_nothingOwn {answers : Answers} {client : ClientKey}
    (h : answers.NothingOwn client name) :
    answers.resolversFor client = answers.resolversFor .default := by
  cases client with
  | default => rfl
  | client ip =>
    have hnone : (answers.tier (.client ip)).resolvers = [] := (tier_of_nothingOwn h).1
    show (answers.tier (.client ip)).resolvers ++ (answers.tier .default).resolvers = _
    rw [hnone, resolversFor_default, List.nil_append]

/-- The client's own tier is passed through, into the default tier, and never entered
again: whatever it says of names met later is not looked at. -/
theorem inOwn_of_nothingOwn (h : r.answers.NothingOwn r.client name) (room : Nat) :
    r.inOwn (room + 1) name = r.inDefault maxHops name := by
  obtain ⟨_, halias, haddresses⟩ := tier_of_nothingOwn h
  have hrecords : r.addressRecords (r.answers.tier r.client) name = [] := by
    unfold addressRecords
    split
    · next entry hentry =>
      rw [AddressEntry.records, haddresses entry hentry]
      rfl
    · rfl
  rw [inOwn, r.inTier_of_not_alias _ _ room halias, direct, hrecords]
  rfl

theorem resolve_of_nothingOwn (h : r.answers.NothingOwn r.client (Fqdn.normalize name)) :
    r.resolve name AliasChain.empty = r.forDefault.resolve name AliasChain.empty := by
  have hmirrors : Mirrors id r r.forDefault :=
    mirrors_of_resolvers rfl rfl rfl (resolversFor_of_nothingOwn h)
  have hshared : r.inDefault maxHops (Fqdn.normalize name) =
      r.forDefault.inDefault maxHops (Fqdn.normalize name) :=
    (hmirrors.inDefault (Tier.Alike.refl _) _ _).eq
  have hdefault : r.forDefault.resolve name AliasChain.empty =
      r.forDefault.inDefault maxHops (Fqdn.normalize name) := resolve_of_default rfl
  rw [hdefault, ← hshared]
  cases hclient : r.client with
  | default => exact resolve_of_default hclient
  | client ip =>
    rw [resolve_of_client hclient]
    exact inOwn_of_nothingOwn h _

/-- A client with nothing of its own is answered as the default client is: with the same
records, after the same draws and the same questions to the same resolvers. -/
theorem resolve_as_default (h : r.answers.NothingOwn r.client (Fqdn.normalize name)) :
    r.resolve name AliasChain.empty = r.forDefault.resolve name AliasChain.empty ∧
      r.observed.resolve name AliasChain.empty =
        r.forDefault.observed.resolve name AliasChain.empty := by
  have hobserved : r.observed.answers.NothingOwn r.observed.client (Fqdn.normalize name) := h
  exact ⟨resolve_of_nothingOwn h, resolve_of_nothingOwn hobserved⟩

/-- A client that says something of `hall`, where the door of the default tier leads. -/
def visitor : Resolution (List Nat) Unit where
  answers :=
    { clients := [(.v4 ⟨10, 0, 0, 9⟩,
        { resolvers := []
          addresses := [("hall.", { ttl := none, addresses := [⟨10, 9, 9, 9⟩] })]
          aliases := [("attic.", { ttl := none, target := "hall." })] })]
      default := some
        { resolvers := ["9.9.9.9"]
          addresses := [("hall.", { ttl := none, addresses := [⟨10, 0, 0, 7⟩, ⟨10, 0, 0, 8⟩] })]
          aliases :=
            [("door.", { ttl := some 30, target := "hall." }),
              ("hall.", { ttl := none, target := "far." })] } }
  client := .client (.v4 ⟨10, 0, 0, 9⟩)
  defaultTtl := 600
  source := IndexSource.scripted
  delegate := Delegate.canned []

/-- The visitor gets the addresses of the default `hall`, after `far` was asked for at the
resolvers for everybody, and two draws. -/
theorem visitor_as_default :
    visitor.answers.NothingOwn visitor.client (Fqdn.normalize "Door") ∧
      visitor.resolve "Door" AliasChain.empty =
        visitor.forDefault.resolve "Door" AliasChain.empty ∧
      visitor.observed.resolve "Door" AliasChain.empty
          { random := ([0, 0], []), delegate := ((), []) } =
        (some [Record.canonical "door." 30 "hall.", Record.address "hall." 600 ⟨10, 0, 0, 8⟩,
            Record.address "hall." 600 ⟨10, 0, 0, 7⟩],
          { random := ([], [0, 1])
            delegate := ((), [{ fqdn := "far.", servers := ["9.9.9.9"] }]) }) := by
  have hname : Fqdn.normalize "Door" = "door." := by rfl
  have hnothing : visitor.answers.NothingOwn visitor.client (Fqdn.normalize "Door") := by
    rw [hname]
    intro tier htier
    obtain rfl := Option.some.inj htier
    exact ⟨rfl, rfl, fun _ hentry => nomatch hentry⟩
  obtain ⟨hsame, hobserved⟩ := resolve_as_default hnothing
  refine ⟨hnothing, hsame, ?_⟩
  rw [hobserved]
  rfl

end Resolution
end SplitHorizon
