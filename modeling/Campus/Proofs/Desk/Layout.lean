import Campus.Node
import Campus.Proofs.Desk.Place
import Campus.Proofs.Service.Faults
import Mathlib.Data.List.Basic
import Mathlib.Data.List.Induction

/-! # The layout of a desk

A desk that is built for a configuration gives every method of its service a chain, with a place in the guard room that no other
method has and that the link to the peer spares. Nothing that calls do changes this.
-/
namespace Campus

open Pipeline

theorem Service.nodup_methods (kind : ServiceKind) : (Service.methods kind).Nodup := by
  cases kind <;> decide

namespace Desk

def firstPlace (d : Desk) : Nat := if d.link.isSome then 1 else 0

/-- The place of a method in the guard room: the methods of the service stand in their order behind the link. -/
def place (d : Desk) (method : String) : Nat := d.firstPlace + (Service.methods d.kind).idxOf method

/-- A desk whose methods have chains and places of their own. -/
structure Arranged (d : Desk) : Prop where
  chain {method : String} : method ∈ Service.methods d.kind →
    (d.endpoints.find? fun e => e.1 = method) = some (method, endpointChain method (d.place method) (d.place method))
  known {method : String} {e : String × List Decorator} : (d.endpoints.find? fun e => e.1 = method) = some e →
    method ∈ Service.methods d.kind
  link : ∀ l ∈ d.link, l.bucket = 0 ∧ l.breaker = 0

def fixtures (d : Desk) : ServiceKind × List (String × List Decorator) × Option Peer.Link × Nat × Option Outage :=
  (d.kind, d.endpoints, d.link, d.fanOut, d.backend.outage)

theorem kind_of_fixtures {d d' : Desk} (h : d'.fixtures = d.fixtures) : d'.kind = d.kind := congrArg Prod.fst h

theorem link_of_fixtures {d d' : Desk} (h : d'.fixtures = d.fixtures) : d'.link = d.link := congrArg (·.2.2.1) h

theorem outage_of_fixtures {d d' : Desk} (h : d'.fixtures = d.fixtures) : d'.backend.outage = d.backend.outage :=
  congrArg (·.2.2.2.2) h

theorem place_of_fixtures {d d' : Desk} (h : d'.fixtures = d.fixtures) (method : String) : d'.place method = d.place method := by
  rw [place, firstPlace, kind_of_fixtures h, link_of_fixtures h]
  rfl

theorem Arranged.of_fixtures {d d' : Desk} (hd : d.Arranged) (h : d'.fixtures = d.fixtures) : d'.Arranged := by
  have hendpoints : d'.endpoints = d.endpoints := congrArg (·.2.1) h
  constructor
  · intro method hmethod
    rw [kind_of_fixtures h] at hmethod
    rw [hendpoints, place_of_fixtures h]
    exact hd.chain hmethod
  · intro method e he
    rw [hendpoints] at he
    rw [kind_of_fixtures h]
    exact hd.known he
  · rw [link_of_fixtures h]
    exact hd.link

namespace Arranged

variable {d : Desk} {method other : String}

theorem spares_link (h : d.Arranged) (method : String) : ∀ l ∈ d.link, l.Spares (d.place method) := by
  intro l hl
  have hpos : 0 < d.place method := by
    have hsome : d.link.isSome = true := Option.isSome_of_mem hl
    simp only [place, firstPlace, hsome, if_true]
    omega
  obtain ⟨hbucket, hbreaker⟩ := h.link l hl
  exact ⟨by omega, by omega⟩

theorem place_ne (hmethod : method ∈ Service.methods d.kind) (hne : other ≠ method) : d.place other ≠ d.place method := by
  intro hplace
  have hindex : (Service.methods d.kind).idxOf method = (Service.methods d.kind).idxOf other := by
    unfold place at hplace
    omega
  exact hne ((List.idxOf_inj hmethod).mp hindex).symm

theorem spares_chain (h : d.Arranged) (hmethod : method ∈ Service.methods d.kind) (hne : other ≠ method)
    {e : String × List Decorator} (he : (d.endpoints.find? fun e => e.1 = other) = some e) :
    ∀ dec ∈ e.2, dec.Spares (d.place method) := by
  have hchain := (h.chain (h.known he)).symm.trans he
  obtain rfl := Option.some.inj hchain
  exact spares_endpointChain (place_ne hmethod hne) other

end Arranged

/-! ## Nothing moves -/

section Fixtures

variable {d : Desk} {peers : Peers} {stop : Option Instant} {now : Instant} {wall : Moment} {context : Context} {ts : Tokens}
  {op : Operation}

theorem fixtures_confirmed (d : Desk) (student course : Int64) (wall : Moment) (ending : Ending Course) :
    (confirmed d student course wall ending).2.fixtures = d.fixtures := by
  unfold confirmed
  split
  case h_1 =>
    unfold fixtures Service.enroll
    rw [Backend.outage_write]
  case h_2 => rfl

theorem fixtures_gather (link : Peer.Link) (job : FanOut.Job (Peer.Flight Course) Course) (d : Desk) :
    (gather peers stop now link job ts d).2.2.fixtures = d.fixtures := by
  unfold gather
  split <;> rfl

theorem fixtures_perform (d : Desk) : (perform peers stop now wall context op ts d).2.2.fixtures = d.fixtures := by
  obtain ⟨step, backend, hhandle, hperforms⟩ := performs peers stop now wall context op ts d
  have houtage := Service.outage_handle d.link.isSome wall context.method d.backend d.kind op
  rw [hhandle] at houtage
  have hbackend : ({ d with backend } : Desk).fixtures = d.fixtures :=
    congrArg (fun outage => (d.kind, d.endpoints, d.link, d.fanOut, outage)) houtage
  generalize perform peers stop now wall context op ts d = turn at hperforms ⊢
  cases hperforms with
  | confirmed => exact (fixtures_confirmed ..).trans hbackend
  | gathering => exact (fixtures_gather ..).trans hbackend
  | _ => exact hbackend

theorem fixtures_resume (wait : Wait) (d : Desk) : (resume peers stop now wall wait ts d).2.2.fixtures = d.fixtures := by
  cases wait with
  | confirming student course due flight => exact fixtures_confirmed ..
  | roster due flight => rfl
  | gathering link job => exact fixtures_gather link job d

theorem fixtures_settle (frames : List Frame) (turn : Turn × Tokens × Desk) :
    (settle now frames context stop turn).2.fixtures = turn.2.2.fixtures := by
  obtain ⟨turn, ts, d⟩ := turn
  cases turn <;> rfl

theorem fixtures_start (d : Desk) : (start peers stop now wall context ts op d).2.fixtures = d.fixtures := by
  unfold start
  split
  · rfl
  split
  · rfl
  · rw [fixtures_settle, fixtures_perform]
    rfl

theorem fixtures_proceed (p : Pending) (d : Desk) : (proceed peers now wall p d).2.fixtures = d.fixtures := by
  rw [proceed, fixtures_settle, fixtures_resume]

theorem fixtures_cancel (p : Pending) (d : Desk) : (cancel now p d).2.fixtures = d.fixtures := by
  unfold cancel
  split <;> rfl

theorem fixtures_sweep (d : Desk) : (sweep now d).fixtures = d.fixtures := rfl

theorem fixtures_abandon (p : Pending) (d : Desk) : (abandon now p d).fixtures = d.fixtures := by
  unfold abandon
  split <;> rfl

end Fixtures

/-! ## Building a desk -/

def freshBucket (config : ServerConfig) (now : Instant) : Bucket Float :=
  .full config.endpointLimiter.rate config.endpointLimiter.burst now

def freshBreaker (config : ServerConfig) (method : String) : Breaker :=
  .fresh method config.endpointBreaker Fault.isDependencyFailure

structure Registers (config : ServerConfig) (now : Instant) (base : Nat) (methods : List String) (before d : Desk) : Prop where
  endpoints : d.endpoints = methods.mapIdx fun n m => (m, endpointChain m (base + n) (base + n))
  buckets : d.stage.buckets = before.stage.buckets ++ methods.map fun _ => freshBucket config now
  breakers : d.stage.breakers = before.stage.breakers ++ methods.map (freshBreaker config)
  leaving : d.stage.leaving = before.stage.leaving
  rest : (d.kind, d.backend, d.link, d.fanOut) = (before.kind, before.backend, before.link, before.fanOut)

theorem registers_foldl (config : ServerConfig) (now : Instant) {base : Nat} {d : Desk} (hempty : d.endpoints = [])
    (hbuckets : d.stage.buckets.length = base) (hbreakers : d.stage.breakers.length = base) {methods : List String}
    (hnodup : methods.Nodup) :
    Registers config now base methods d
      (methods.foldl (fun d m => d.register m config.endpointLimiter config.endpointBreaker now) d) := by
  -- From the end of the list: the place of a method is the number of those before it.
  induction methods using List.reverseRecOn with
  | nil => exact ⟨hempty, (List.append_nil _).symm, (List.append_nil _).symm, rfl, rfl⟩
  | append_singleton methods m ih =>
    obtain ⟨hmethods, -, hfresh⟩ := List.nodup_append.mp hnodup
    have hm : m ∉ methods := fun h => hfresh m h m List.mem_cons_self rfl
    obtain ⟨hendpoints, hbucketsBefore, hbreakersBefore, hleaving, hrest⟩ := ih hmethods
    rw [List.foldl_append, List.foldl_cons, List.foldl_nil]
    generalize methods.foldl _ d = d' at *
    have hothers : (d'.endpoints.filter fun e => e.1 ≠ m) = d'.endpoints := by
      rw [List.filter_eq_self, hendpoints]
      intro e he
      obtain ⟨n, hn, rfl⟩ := List.mem_mapIdx.mp he
      have hne : methods[n] ≠ m := fun h => hm (h ▸ List.getElem_mem hn)
      simpa using hne
    have hlengths : d'.stage.buckets.length = base + methods.length ∧ d'.stage.breakers.length = base + methods.length := by
      rw [hbucketsBefore, hbreakersBefore]
      simp [hbuckets, hbreakers]
    constructor
    · change (d'.endpoints.filter fun e => e.1 ≠ m) ++ _ = _
      rw [hothers, hlengths.1, hlengths.2, hendpoints, List.mapIdx_concat]
    · simp only [register, Stage.addEndpoint, Stage.add, hbucketsBefore, List.map_append, List.append_assoc]
      rfl
    · simp only [register, Stage.addEndpoint, Stage.add, hbreakersBefore, List.map_append, List.append_assoc]
      rfl
    · exact hleaving
    · exact hrest

namespace Registers

variable {config : ServerConfig} {now : Instant} {base : Nat} {methods : List String} {before d : Desk} {m : String}

theorem find? (h : Registers config now base methods before d) (hm : m ∈ methods) :
    (d.endpoints.find? fun e => e.1 = m) =
      some (m, endpointChain m (base + methods.idxOf m) (base + methods.idxOf m)) := by
  rw [h.endpoints, List.find?_eq_some_iff_getElem]
  have hlt : methods.idxOf m < methods.length := List.idxOf_lt_length_of_mem hm
  refine ⟨by simp, methods.idxOf m, by simpa using hlt, by simp, ?_⟩
  intro j hj
  have hne : (methods[j] == m) = false := List.not_of_lt_findIdx hj
  simpa using hne

theorem mem_of_find? (h : Registers config now base methods before d) {e : String × List Decorator}
    (he : (d.endpoints.find? fun e => e.1 = m) = some e) : m ∈ methods := by
  have hname : e.1 = m := by simpa using List.find?_some he
  have hmem := List.mem_of_find?_eq_some he
  rw [h.endpoints] at hmem
  obtain ⟨n, hn, rfl⟩ := List.mem_mapIdx.mp hmem
  exact hname ▸ List.getElem_mem hn

theorem holds (h : Registers config now base methods before d) (hbuckets : before.stage.buckets.length = base)
    (hbreakers : before.stage.breakers.length = base) (hleaving : before.stage.leaving = []) (hm : m ∈ methods) :
    d.stage.Holds (base + methods.idxOf m) (freshBucket config now) (freshBreaker config m) := by
  have hlt : methods.idxOf m < methods.length := List.idxOf_lt_length_of_mem hm
  constructor
  · rw [h.buckets, List.getElem?_append_right (by omega), hbuckets]
    simp [hlt]
  · rw [h.breakers, List.getElem?_append_right (by omega), hbreakers]
    simp [hlt]
  · rw [h.leaving, hleaving]
    simp

end Registers

structure Built (config : ServerConfig) (backend : Backend) (now : Instant) (d : Desk) : Prop extends d.Arranged where
  kind : d.kind = config.service
  backend : d.backend = backend
  holds {method : String} : method ∈ Service.methods d.kind →
    d.stage.Holds (d.place method) (freshBucket config now) (freshBreaker config method)

/-- Registering all methods arranges a desk on which only the link to the peer has a place. -/
theorem built_registerAll {config : ServerConfig} {backend : Backend} (now : Instant) {d : Desk} (hempty : d.endpoints = [])
    (hbuckets : d.stage.buckets.length = d.firstPlace) (hbreakers : d.stage.breakers.length = d.firstPlace)
    (hleaving : d.stage.leaving = []) (hlink : ∀ l ∈ d.link, l.bucket = 0 ∧ l.breaker = 0) (hkind : d.kind = config.service)
    (hbackend : d.backend = backend) :
    Built config backend now (d.registerAll config now) := by
  have h := registers_foldl config now hempty hbuckets hbreakers (Service.nodup_methods d.kind)
  have hall : d.registerAll config now =
    (Service.methods d.kind).foldl (fun d m => d.register m config.endpointLimiter config.endpointBreaker now) d := rfl
  rw [← hall] at h
  obtain ⟨hkind', hbackend', hlink', hfanOut⟩ : (d.registerAll config now).kind = d.kind ∧
      (d.registerAll config now).backend = d.backend ∧ (d.registerAll config now).link = d.link ∧
      (d.registerAll config now).fanOut = d.fanOut := by simpa using h.rest
  have hplace (m : String) : (d.registerAll config now).place m = d.firstPlace + (Service.methods d.kind).idxOf m := by
    rw [place, firstPlace, hkind', hlink']
    rfl
  constructor
  · constructor
    · intro m hm
      rw [hkind'] at hm
      rw [hplace]
      exact h.find? hm
    · intro m e he
      rw [hkind']
      exact h.mem_of_find? he
    · rwa [hlink']
  · rw [hkind', hkind]
  · rw [hbackend', hbackend]
  · intro m hm
    rw [hkind'] at hm
    rw [hplace]
    exact h.holds hbuckets hbreakers hleaving hm

theorem built_build {config : ServerConfig} {backend : Backend} {now : Instant} {d : Desk} {sibling : Option Peer.Destination}
    (h : build config backend now = .ok (d, sibling)) : Built config backend now d := by
  have hlone : Built config backend now ((bare config.service backend config.fanOut).registerAll config now) :=
    built_registerAll now rfl rfl rfl rfl (by rintro l ⟨⟩) rfl rfl
  unfold build at h
  dsimp only at h
  split at h
  case isTrue =>
    cases h
    exact hlone
  case isFalse =>
    split at h
    case h_1 =>
      cases h
      exact hlone
    case h_2 =>
      split at h
      case h_1 => cases h
      case h_2 =>
        cases h
        refine built_registerAll now rfl rfl rfl rfl ?_ rfl rfl
        rintro l ⟨⟩
        exact ⟨rfl, rfl⟩

end Desk

end Campus
