import Mathlib.Data.List.Range
/-!
# ResponseId — the response identifier counter (Response.cpp)

`Response::Impl`'s constructor gives HEARTBEAT and ERROR responses the id 0 and every other response the value that
`NEXT_RESPONSE_ID.fetch_add(1)` returns, the counter before its increment.  A construction touches the shared state in
one atomic step (or not at all), so a run of the process, whatever the interleaving of its threads, is one list of
constructions in the order of those steps (`construct`).  In that order the substantive responses are numbered
`0, 1, 2, …` whatever out-of-band responses stand between them (`substantiveIds_construct`).
-/
namespace Launcher
namespace Api

/-- Modelled from the spec: `Response::Type` (declared in Response.hpp, not under src/).  §3 names BOOTSTRAP,
HEARTBEAT, ERROR and CLUSTER_INFO; `other` stands for the rest of the enum. -/
inductive ResponseType where
  | bootstrap
  | heartbeat
  | error
  | clusterInfo
  | other (tag : Int)
  deriving DecidableEq, Repr

/-- `(in_responseType == Type::HEARTBEAT) || (in_responseType == Type::ERROR)`. -/
def ResponseType.isOutOfBand (t : ResponseType) : Bool := t == .heartbeat || t == .error

/-- The values of a `std::atomic_uint64_t`. -/
def idSpace : Nat := Nat.pow 2 64

/-- `NEXT_RESPONSE_ID { 0 }`. -/
def NEXT_RESPONSE_ID : Nat := 0

/-- The fields of `Response::Impl`. -/
structure ResponseImpl where
  ResponseType : ResponseType
  RequestId : Nat
  ResponseId : Nat
  deriving DecidableEq, Repr

/-- `Response::Impl::Impl(in_responseType, in_requestId)` with the counter at `next`: the response, and the counter
after.  `fetch_add(1)` returns `next` and stores `next + 1` modulo `2^64`. -/
def ResponseImpl.create (next : Nat) (t : Api.ResponseType) (requestId : Nat) : ResponseImpl × Nat :=
  if t.isOutOfBand then (⟨t, requestId, 0⟩, next) else (⟨t, requestId, next⟩, (next + 1) % idSpace)

/-- The constructions of a run, in the order of their steps on the counter, from the counter `next`: the responses
built and the counter after. -/
def construct : Nat → List (ResponseType × Nat) → List ResponseImpl × Nat
  | next, [] => ([], next)
  | next, (t, r) :: ts =>
    ((ResponseImpl.create next t r).1 :: (construct (ResponseImpl.create next t r).2 ts).1,
      (construct (ResponseImpl.create next t r).2 ts).2)

/-- The constructions of a run that draw from the counter. -/
def substantive (ts : List (ResponseType × Nat)) : List (ResponseType × Nat) :=
  ts.filter (fun p => !p.1.isOutOfBand)

/-- The ids of the substantive responses among `rs`, in construction order. -/
def substantiveIds (rs : List ResponseImpl) : List Nat :=
  (rs.filter (fun r => !r.ResponseType.isOutOfBand)).map (·.ResponseId)

@[simp] theorem create_fst_type (next : Nat) (t : ResponseType) (r : Nat) :
    (ResponseImpl.create next t r).1.ResponseType = t := by
  unfold ResponseImpl.create; split <;> rfl

theorem create_outOfBand {next : Nat} {t : ResponseType} (r : Nat) (h : t.isOutOfBand = true) :
    ResponseImpl.create next t r = (⟨t, r, 0⟩, next) := if_pos h

theorem create_substantive {next : Nat} {t : ResponseType} (r : Nat) (h : t.isOutOfBand = false) :
    ResponseImpl.create next t r = (⟨t, r, next⟩, (next + 1) % idSpace) := if_neg (by simp [h])

/-- **Every out-of-band response of a run has id 0.** -/
theorem construct_outOfBand_id : ∀ (next : Nat) (ts : List (ResponseType × Nat)),
    ∀ r ∈ (construct next ts).1, r.ResponseType.isOutOfBand = true → r.ResponseId = 0
  | _, [] => by simp [construct]
  | next, (t, q) :: ts => by
    intro r hr hoob
    simp only [construct, List.mem_cons] at hr
    rcases hr with rfl | hr
    · rw [create_fst_type] at hoob; rw [create_outOfBand q hoob]
    · exact construct_outOfBand_id _ ts r hr hoob

/-- **The run lemma**: from the counter `next`, with room for every substantive construction, the substantive ids are
`next, next + 1, …` and the counter ends past them. -/
theorem construct_ids : ∀ (next : Nat) (ts : List (ResponseType × Nat)),
    next + (substantive ts).length < idSpace →
      substantiveIds (construct next ts).1 = List.range' next (substantive ts).length ∧
        (construct next ts).2 = next + (substantive ts).length
  | next, [] => by simp [construct, substantive, substantiveIds]
  | next, (t, q) :: ts => by
    intro h
    cases ht : t.isOutOfBand with
    | true =>
      have hs : substantive ((t, q) :: ts) = substantive ts := by simp [substantive, ht]
      rw [hs] at h ⊢
      obtain ⟨ih1, ih2⟩ := construct_ids next ts h
      simp only [construct, create_outOfBand q ht]
      exact ⟨by simpa [substantiveIds, ht] using ih1, ih2⟩
    | false =>
      have hs : substantive ((t, q) :: ts) = (t, q) :: substantive ts := by simp [substantive, ht]
      rw [hs, List.length_cons] at h ⊢
      have hn : (next + 1) % idSpace = next + 1 := Nat.mod_eq_of_lt (by omega)
      obtain ⟨ih1, ih2⟩ := construct_ids (next + 1) ts (by omega)
      simp only [construct, create_substantive q ht, hn]
      refine ⟨?_, by rw [ih2]; omega⟩
      simp only [substantiveIds, List.filter_cons, ht, Bool.not_false, if_true, List.map_cons] at ih1 ⊢
      rw [ih1, List.range'_succ]

/-- The substantive ids of a run from the counter's initial value, fewer than `2^64` of them: `0, 1, …`. -/
theorem substantiveIds_construct (ts : List (ResponseType × Nat)) (h : (substantive ts).length < idSpace) :
    substantiveIds (construct NEXT_RESPONSE_ID ts).1 = List.range (substantive ts).length := by
  rw [NEXT_RESPONSE_ID, (construct_ids 0 ts (by simpa using h)).1, List.range_eq_range']

/-- **Response ids over a run** (Response.cpp, `Response::Impl`): in every run with fewer than `2^64` substantive
constructions, each HEARTBEAT and ERROR response gets id 0 and leaves the counter as it was; the ids of the other
responses, in construction order, are strictly increasing and pairwise distinct, the `n`-th being `n` whatever
out-of-band responses were built before it. -/
theorem responseIds_sequential (ts : List (ResponseType × Nat)) (h : (substantive ts).length < idSpace) :
    (∀ r ∈ (construct NEXT_RESPONSE_ID ts).1, r.ResponseType.isOutOfBand = true → r.ResponseId = 0) ∧
    (∀ (next : Nat) (t : ResponseType) (q : Nat), t.isOutOfBand = true → (ResponseImpl.create next t q).2 = next) ∧
    (substantiveIds (construct NEXT_RESPONSE_ID ts).1).Pairwise (· < ·) ∧
    (substantiveIds (construct NEXT_RESPONSE_ID ts).1).Nodup ∧
    ∀ n < (substantive ts).length, (substantiveIds (construct NEXT_RESPONSE_ID ts).1)[n]? = some n := by
  rw [substantiveIds_construct ts h]
  refine ⟨construct_outOfBand_id _ ts, fun _ _ q ht => by rw [create_outOfBand q ht], List.pairwise_lt_range _,
    List.nodup_range _, fun n hn => ?_⟩
  rw [List.getElem?_range hn]

/-- A run of a BOOTSTRAP, a HEARTBEAT and a CLUSTER_INFO response. -/
theorem responseIds_sequential_run :
    (substantive [(.bootstrap, 1), (.heartbeat, 0), (.clusterInfo, 2)]).length < idSpace ∧
      (substantiveIds (construct NEXT_RESPONSE_ID [(.bootstrap, 1), (.heartbeat, 0), (.clusterInfo, 2)]).1).Nodup :=
  ⟨by decide, (responseIds_sequential [(.bootstrap, 1), (.heartbeat, 0), (.clusterInfo, 2)] (by decide)).2.2.2.1⟩

/-- A run of one BOOTSTRAP response: the substantive response gets id 0. -/
theorem bootstrap_first_id_zero :
    ∃ r ∈ (construct NEXT_RESPONSE_ID [(.bootstrap, 1)]).1, r.ResponseType.isOutOfBand = false ∧ r.ResponseId = 0 :=
  ⟨⟨.bootstrap, 1, 0⟩, by decide, rfl, rfl⟩

/-- **The one substantive response with id 0**: in every run with fewer than `2^64` substantive constructions, a
substantive response has id 0, the id of every HEARTBEAT and ERROR response, exactly when it is the first one
constructed. -/
theorem substantive_id_zero_iff_first (ts : List (ResponseType × Nat)) (h : (substantive ts).length < idSpace)
    (n : Nat) (hn : n < (substantive ts).length) :
    (substantiveIds (construct NEXT_RESPONSE_ID ts).1)[n]? = some 0 ↔ n = 0 := by
  rw [substantiveIds_construct ts h, List.getElem?_range hn, Option.some_inj]

/-- In a run of a HEARTBEAT, a BOOTSTRAP, an ERROR and a CLUSTER_INFO response, the second substantive response's id
is not 0. -/
theorem substantive_id_zero_iff_first_run :
    (substantive [(.heartbeat, 0), (.bootstrap, 1), (.error, 1), (.clusterInfo, 2)]).length < idSpace ∧
      1 < (substantive [(.heartbeat, 0), (.bootstrap, 1), (.error, 1), (.clusterInfo, 2)]).length ∧
      ((substantiveIds (construct NEXT_RESPONSE_ID [(.heartbeat, 0), (.bootstrap, 1), (.error, 1),
        (.clusterInfo, 2)]).1)[1]? = some 0 ↔ 1 = 0) :=
  ⟨by decide, by decide, substantive_id_zero_iff_first [(.heartbeat, 0), (.bootstrap, 1), (.error, 1),
    (.clusterInfo, 2)] (by decide) 1 (by decide)⟩

end Api
end Launcher
