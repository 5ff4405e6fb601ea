import Campus.Peer.Exchange
import Campus.Proofs.Peer.Answers
import Mathlib.Data.List.Chain
import Mathlib.Data.List.TakeWhile

/-! # How journeys go

A journey is told by its answers. The last of them, or what went wrong instead, decides how it ends, and every request after the
first goes where the answer before it led, at once and under the same id. So nothing is asked for again after something went wrong,
and a client is not sent on more than ten times.
-/
namespace Campus

theorem Http.isRedirect_of_isSuccess {status : Nat} (h : isSuccess status = true) : isRedirect status = false := by
  simp only [isSuccess, Bool.and_eq_true, decide_eq_true_eq] at h
  simp [isRedirect]
  omega

namespace Peer

variable {network : Network}

/-! ## The end -/

/-- When a request is over that may be sent on so many times, and with what. -/
inductive Ends (network : Network) : Nat → Instant → Outgoing → Instant → Arrival → Prop where
  | failed {left : Nat} {now : Instant} {out : Outgoing} {after : Span} {timedOut : Bool} {reason : String}
      (h : network now out = .failed after timedOut reason) : Ends network left now out (now + after) (.failed timedOut reason)
  /-- The answer leads nowhere. -/
  | answered {left : Nat} {now : Instant} {out : Outgoing} {after : Span} {status : Nat} {location : Option Url}
      {body : List UInt8} (h : network now out = .answered after status location body) (hlast : onward? status location = none) :
    Ends network left now out (now + after) (.answered status body)
  /-- The answer leads on once too often. -/
  | exhausted {now : Instant} {out : Outgoing} {after : Span} {status : Nat} {location : Option Url} {body : List UInt8}
      {next : Url} (h : network now out = .answered after status location body) (hnext : onward? status location = some next) :
    Ends network 0 now out (now + after)
      (.failed false s!"error following redirect for url ({out.url.withoutCredentials.text})")
  /-- The answer leads out of the web. -/
  | astray {left : Nat} {now : Instant} {out : Outgoing} {after : Span} {status : Nat} {location : Option Url}
      {body : List UInt8} {next : Url} (h : network now out = .answered after status location body)
      (hnext : onward? status location = some next) (hweb : isWeb next = false) :
    Ends network (left + 1) now out (now + after) (.failed false s!"builder error for url ({next.withoutCredentials.text})")
  | followed {left : Nat} {now t : Instant} {out : Outgoing} {after : Span} {status : Nat} {location : Option Url}
      {body : List UInt8} {next : Url} {arrival : Arrival} (h : network now out = .answered after status location body)
      (hnext : onward? status location = some next) (hweb : isWeb next = true)
      (hrest : Ends network left (now + after) { out with url := next } t arrival) : Ends network (left + 1) now out t arrival

section Ends

variable {left : Nat} {now t : Instant} {out : Outgoing} {arrival : Arrival}

theorem ends_iff : Ends network left now out t arrival ↔ (follow network left now out).arrival = some (t, arrival) := by
  constructor
  · intro h
    induction h with
    | failed h => rw [follow, h]
    | answered h hlast =>
      rw [follow, h]
      simp only [hlast]
    | exhausted h hnext =>
      rw [follow, h]
      simp only [hnext]
    | astray h hnext hweb =>
      rw [follow, h]
      simp only [hnext, hweb]
      rfl
    | followed h hnext hweb hrest ih =>
      rw [follow, h]
      simpa only [hnext, hweb, if_true] using ih
  · intro h
    fun_induction follow network left now out with
    | case1 left now out hsilent => cases h
    | case2 left now out after timedOut reason hfailed =>
      cases h
      exact .failed hfailed
    | case3 left now out after status location body hanswer hlast =>
      cases h
      exact .answered hanswer hlast
    | case4 now out after status location body hanswer next hnext =>
      cases h
      exact .exhausted hanswer hnext
    | case5 now out after status location body hanswer next left hnext hweb rest ih => exact .followed hanswer hnext hweb (ih h)
    | case6 now out after status location body hanswer next left hnext hweb =>
      cases h
      exact .astray hanswer hnext (Bool.eq_false_iff.mpr hweb)

theorem Ends.le (h : Ends network left now out t arrival) : now ≤ t := by
  induction h with
  | followed h hnext hweb hrest ih => exact Nat.le_trans (Nat.le_add_right _ _) ih
  | _ => exact Nat.le_add_right _ _

theorem follow_answered {after : Span} {status : Nat} {location : Option Url} {body : List UInt8}
    (h : network now out = .answered after status location body) (hlast : Http.isRedirect status = false) :
    (follow network left now out).arrival = some (now + after, .answered status body) := by
  have hnowhere : onward? status location = none := by simp [onward?, hlast]
  exact ends_iff.mp (.answered h hnowhere)

end Ends

/-! ## The way -/

inductive Leads (network : Network) : Instant × Outgoing → Instant × Outgoing → Prop where
  | on {now : Instant} {out : Outgoing} {after : Span} {status : Nat} {location : Option Url} {body : List UInt8} {next : Url}
      (h : network now out = .answered after status location body) (hnext : onward? status location = some next)
      (hweb : isWeb next = true) : Leads network (now, out) (now + after, { out with url := next })

/-- The requests that go over a network one after the other because of the first of them. -/
structure Trail (network : Network) (first : Instant × Outgoing) (trail : List (Instant × Outgoing)) : Prop where
  first : trail.head? = some first
  led : trail.IsChain (Leads network)
  short : trail.length ≤ mostRedirects + 1

section Trail

variable {first : Instant × Outgoing} {trail : List (Instant × Outgoing)}

/-- All requests of a trail go out under the id of the first. -/
theorem same_id_of_led {rest : List (Instant × Outgoing)} (h : (first :: rest).IsChain (Leads network)) :
    ∀ r ∈ rest, r.2.requestId = first.2.requestId := by
  induction rest generalizing first with
  | nil => simp
  | cons second rest ih =>
    obtain ⟨hleads, hlater⟩ := List.isChain_cons_cons.mp h
    have hsame := ih hlater
    cases hleads
    exact List.forall_mem_cons.mpr ⟨rfl, hsame⟩

theorem requests_follow (network : Network) (left : Nat) (now : Instant) (out : Outgoing) :
    ∃ rest, (follow network left now out).requests = (now, out) :: rest ∧ rest.length ≤ left ∧
      ((now, out) :: rest).IsChain (Leads network) := by
  fun_induction follow network left now out with
  | case5 now out after status location body hanswer next left hnext hweb rest ih =>
    obtain ⟨later, hlater, hshort, hled⟩ := ih
    refine ⟨(now + after, { out with url := next }) :: later, congrArg _ hlater, Nat.succ_le_succ hshort, ?_⟩
    exact List.isChain_cons_cons.mpr ⟨.on hanswer hnext hweb, hled⟩
  | _ => exact ⟨[], rfl, Nat.zero_le _, List.isChain_singleton _⟩

end Trail

/-! ## The requests of an exchange -/

section Exchange

variable {e : Endpoint} {d : Destination} {now : Instant} {stop : Option Instant} {ts : Tokens} {context : Context} {id : String}

theorem prepare_ok {out : Outgoing} (h : prepare e d ts now context id = .ok out) :
    d.path.resolve d.base id = .ok out.url ∧ out.requestId = context.requestId ∧ ts.isCancelled context.token = false ∧
      now < context.deadline := by
  cases prepares_iff.mpr h with
  | ready haddress htoken htime hheader hsendable => exact ⟨haddress, rfl, htoken, htime⟩

/-- How the request of an exchange goes over the network, if it does: it begins at the address of its id, goes on where answers lead, and
does so under one id, before the deadline, and before the cancellation if the exchange itself is before it. -/
structure GoesOut (network : Network) (e : Endpoint) (d : Destination) (now : Instant) (stop : Option Instant) (ts : Tokens)
    (context : Context) (id : String) : Prop where
  /-- The journal notes an exchange as sent if and only if something goes over the network for it. -/
  sent (α : Type) [Wire α] : (exchange network e d now stop ts context id : Attempt α).sent = true ↔
    requests network e d now stop ts context id ≠ []
  trail : requests network e d now stop ts context id ≠ [] → ∃ url, d.path.resolve d.base id = .ok url ∧
    Trail network (now, ⟨url, context.requestId⟩) (requests network e d now stop ts context id)
  marked : ∀ r ∈ requests network e d now stop ts context id, r.2.requestId = context.requestId
  inTime : ∀ r ∈ requests network e d now stop ts context id, r.1 < context.deadline ∧ ∀ c ∈ stop, now < c → r.1 < c

theorem goes_out (network : Network) (e : Endpoint) (d : Destination) (now : Instant) (stop : Option Instant) (ts : Tokens)
    (context : Context) (id : String) : GoesOut network e d now stop ts context id := by
  cases hprepare : prepare e d ts now context id with
  | error fault =>
    have hnone : requests network e d now stop ts context id = [] := by rw [requests, hprepare]
    refine ⟨fun α _ => ?_, fun hsent => absurd hnone hsent, by simp [hnone], by simp [hnone]⟩
    rw [exchange, hprepare]
    simp [unsent, hnone]
  | ok out =>
    obtain ⟨hurl, hid, -, hdeadline⟩ := prepare_ok hprepare
    obtain ⟨rest, hrest, hshort, hled⟩ := requests_follow network mostRedirects now out
    have hsent : requests network e d now stop ts context id =
        (now, out) :: rest.takeWhile fun r => r.1 < context.deadline && stop.all (r.1 < ·) := by
      simp only [requests, hprepare, hrest, List.tail_cons]
    -- What is cut off at the deadline or the cancellation is the end of the trail.
    have hshown := List.takeWhile_prefix (l := rest) fun r => r.1 < context.deadline && stop.all (r.1 < ·)
    refine ⟨fun α _ => ?_, fun _ => ⟨out.url, hurl, ?_, ?_, ?_⟩, ?_, ?_⟩
    · rw [exchange, hprepare, hsent]
      simp [sent_race]
    · rw [hsent, ← hid]
      rfl
    · rw [hsent]
      exact hled.prefix ((List.prefix_cons_inj _).mpr hshown)
    · rw [hsent]
      exact Nat.succ_le_succ (hshown.length_le.trans hshort)
    · rw [hsent]
      refine List.forall_mem_cons.mpr ⟨hid, fun r hr => ?_⟩
      exact (same_id_of_led hled r (hshown.subset hr)).trans hid
    · rw [hsent]
      refine List.forall_mem_cons.mpr ⟨⟨hdeadline, fun c _ hc => hc⟩, fun r hr => ?_⟩
      have htime := List.mem_takeWhile_imp hr
      rw [Bool.and_eq_true, decide_eq_true_eq] at htime
      refine ⟨htime.1, ?_⟩
      rintro c rfl _
      exact of_decide_eq_true htime.2

end Exchange

end Peer

end Campus
