import LauncherSdk.ResponseId
/-!
# ResponseJson — the documents responses write (Response.cpp, `toJson`)

`Response::toJson` writes `messageType`, `requestId` and `responseId`; each subtype calls it and then inserts its own
members (`BootstrapResponse`, `ErrorResponse`, `ClusterInfoResponse`; a `HeartbeatResponse` writes only the base).  A
`json::Object` keeps its members in insertion order, and an insert under a name already present replaces the value.
No `toJson` inserts a name already written: every insert adds its member last (`insert_fresh`), so each document is
the base followed by the subtype's members in the order they are inserted (`bootstrap_toJson`, `error_toJson`,
`clusterInfo_toJson`).  Over a run of constructions the documents carry the ids `Response::Impl` hands out: `0` out of
band, and the count of substantive responses before, modulo `2^64` (`documents_members`).  The field names are
`FIELD_*` of Constants.hpp and the enum values are those of Response.hpp, neither under src/; the names are the ones
the spec lists (§6).
-/
namespace Launcher
namespace Api

/-- Modelled from the spec: `json::Value` (not under src/), the kinds of value a response document holds. -/
inductive Value where
  | int (n : Int)
  | uint (n : Nat)
  | bool (b : Bool)
  | str (s : String)
  | arr (xs : List Value)
  | obj (members : List (String × Value))
  deriving Repr

/-- Modelled from the spec: `json::Object`, its members in insertion order; `insert(name, value)` and
`obj[name] = value` replace the value of a member named so, or add the member last. -/
def Object.insert : List (String × Value) → String → Value → List (String × Value)
  | [], name, v => [(name, v)]
  | (k, w) :: ms, name, v => if k = name then (k, v) :: ms else (k, w) :: Object.insert ms name v

/-- Modelled from the spec: the `FIELD_*` names of Constants.hpp (not under src/), as §6 lists them. -/
def FIELD_MESSAGE_TYPE : String := "messageType"
def FIELD_REQUEST_ID : String := "requestId"
def FIELD_RESPONSE_ID : String := "responseId"
def FIELD_VERSION : String := "version"
def FIELD_VERSION_MAJOR : String := "major"
def FIELD_VERSION_MINOR : String := "minor"
def FIELD_VERSION_PATCH : String := "patch"
def FIELD_ERROR_CODE : String := "errorCode"
def FIELD_ERROR_MESSAGE : String := "errorMessage"
def FIELD_CONTAINER_SUPPORT : String := "containerSupport"
def FIELD_DEFAULT_IMAGE : String := "defaultImage"
def FIELD_ALLOW_UNKNOWN_IMAGES : String := "allowUnknownImages"
def FIELD_IMAGES : String := "images"
def FIELD_QUEUES : String := "queues"
def FIELD_CONFIG : String := "config"
def FIELD_RESOURCE_LIMITS : String := "resourceLimits"
def FIELD_PLACEMENT_CONSTRAINTS : String := "placementConstraints"

/-- `Response::toJson`, with `code` the value of each `Response::Type` (Response.hpp, not under src/). -/
def Response.toJson (code : ResponseType → Int) (r : ResponseImpl) : List (String × Value) :=
  Object.insert (Object.insert (Object.insert [] FIELD_MESSAGE_TYPE (.int (code r.ResponseType))) FIELD_REQUEST_ID
    (.uint r.RequestId)) FIELD_RESPONSE_ID (.uint r.ResponseId)

/-- `BootstrapResponse::toJson`, with `version` the triple `API_VERSION_MAJOR`, `_MINOR`, `_PATCH` (not under
src/). -/
def BootstrapResponse.toJson (code : ResponseType → Int) (version : Int × Int × Int) (r : ResponseImpl) :
    List (String × Value) :=
  Object.insert (Response.toJson code r) FIELD_VERSION (.obj (Object.insert (Object.insert (Object.insert []
    FIELD_VERSION_MAJOR (.int version.1)) FIELD_VERSION_MINOR (.int version.2.1)) FIELD_VERSION_PATCH (.int version.2.2)))

/-- `ErrorResponse::toJson`: the error type's value and the message. -/
def ErrorResponse.toJson (code : ResponseType → Int) (r : ResponseImpl) (errorCode : Int) (errorMessage : String) :
    List (String × Value) :=
  Object.insert (Object.insert (Response.toJson code r) FIELD_ERROR_CODE (.int errorCode)) FIELD_ERROR_MESSAGE
    (.str errorMessage)

/-- `ClusterInfoResponse::Impl`.  The job configurations, placement constraints and resource limits are held as the
documents their `toJson()` gives (api headers, not under src/); `ContainerImages`, a `std::set`, in its order. -/
structure ClusterInfo where
  AllowUnknownImages : Bool
  Config : List Value
  ContainerImages : List String
  DefaultImage : String
  PlacementConstraints : List Value
  Queues : List String
  ResourceLimits : List Value
  SupportsContainers : Bool
  deriving Repr

/-- The constructor without container images. -/
def ClusterInfo.new (queues : List String) (resourceLimits placementConstraints config : List Value) :
    ClusterInfo :=
  ⟨false, config, [], "", placementConstraints, queues, resourceLimits, false⟩

/-- The constructor with container images, a default image and the unknown-image policy. -/
def ClusterInfo.withContainers (containerImages : List String) (defaultImage : String) (allowUnknownImages : Bool)
    (queues : List String) (resourceLimits placementConstraints config : List Value) : ClusterInfo :=
  ⟨allowUnknownImages, config, containerImages, defaultImage, placementConstraints, queues, resourceLimits, true⟩

/-- `ClusterInfoResponse::toJson`. -/
def ClusterInfoResponse.toJson (code : ResponseType → Int) (r : ResponseImpl) (c : ClusterInfo) :
    List (String × Value) :=
  let result := Object.insert (Response.toJson code r) FIELD_CONTAINER_SUPPORT (.bool c.SupportsContainers)
  let result :=
    if c.SupportsContainers then
      let result := if !c.DefaultImage.isEmpty then Object.insert result FIELD_DEFAULT_IMAGE (.str c.DefaultImage)
        else result
      let result := Object.insert result FIELD_ALLOW_UNKNOWN_IMAGES (.bool c.AllowUnknownImages)
      Object.insert result FIELD_IMAGES (.arr (c.ContainerImages.map .str))
    else result
  let result := if !c.Queues.isEmpty then Object.insert result FIELD_QUEUES (.arr (c.Queues.map .str)) else result
  Object.insert (Object.insert (Object.insert result FIELD_CONFIG (.arr c.Config)) FIELD_RESOURCE_LIMITS
    (.arr c.ResourceLimits)) FIELD_PLACEMENT_CONSTRAINTS (.arr c.PlacementConstraints)

/-- What a response holds beyond `Response::Impl`, by subtype. -/
inductive Body where
  | bootstrap
  | error (errorCode : Int) (errorMessage : String)
  | heartbeat
  | clusterInfo (c : ClusterInfo)

/-- The `Response::Type` each subtype's constructor passes to `Response`. -/
def Body.type : Body → ResponseType
  | .bootstrap => .bootstrap
  | .error _ _ => .error
  | .heartbeat => .heartbeat
  | .clusterInfo _ => .clusterInfo

/-- The `toJson` each subtype dispatches to. -/
def Body.toJson (code : ResponseType → Int) (version : Int × Int × Int) (r : ResponseImpl) :
    Body → List (String × Value)
  | .bootstrap => BootstrapResponse.toJson code version r
  | .error e m => ErrorResponse.toJson code r e m
  | .heartbeat => Response.toJson code r
  | .clusterInfo c => ClusterInfoResponse.toJson code r c

/-! ## Inserting fresh names -/

/-- Inserting a name the object does not hold adds it last. -/
theorem insert_fresh : ∀ (obj : List (String × Value)) (name : String) (v : Value), name ∉ obj.map Prod.fst →
    Object.insert obj name v = obj ++ [(name, v)]
  | [], _, _, _ => rfl
  | (k, w) :: ms, name, v, h => by
    simp only [List.map_cons, List.mem_cons, not_or] at h
    simp only [Object.insert, if_neg (Ne.symm h.1), insert_fresh ms name v h.2, List.cons_append]

/-! ## What each subtype writes -/

/-- The base: three inserts into an empty object. -/
theorem response_toJson (code : ResponseType → Int) (r : ResponseImpl) : Response.toJson code r =
    [(FIELD_MESSAGE_TYPE, .int (code r.ResponseType)), (FIELD_REQUEST_ID, .uint r.RequestId),
      (FIELD_RESPONSE_ID, .uint r.ResponseId)] := rfl

/-- Each insert of a subtype's `toJson` adds a name the document does not hold yet (`insert_fresh`): the document is
the base followed by the subtype's members, in the order they are inserted. -/
theorem bootstrap_toJson (code : ResponseType → Int) (version : Int × Int × Int) (r : ResponseImpl) :
    BootstrapResponse.toJson code version r = Response.toJson code r ++
      [(FIELD_VERSION, .obj [(FIELD_VERSION_MAJOR, .int version.1), (FIELD_VERSION_MINOR, .int version.2.1),
        (FIELD_VERSION_PATCH, .int version.2.2)])] := by
  simp [BootstrapResponse.toJson, response_toJson, insert_fresh, FIELD_VERSION, FIELD_VERSION_MAJOR,
    FIELD_VERSION_MINOR, FIELD_VERSION_PATCH, FIELD_MESSAGE_TYPE, FIELD_REQUEST_ID, FIELD_RESPONSE_ID]

theorem error_toJson (code : ResponseType → Int) (r : ResponseImpl) (e : Int) (m : String) :
    ErrorResponse.toJson code r e m = Response.toJson code r ++ [(FIELD_ERROR_CODE, .int e), (FIELD_ERROR_MESSAGE, .str m)] := by
  simp [ErrorResponse.toJson, response_toJson, insert_fresh, FIELD_MESSAGE_TYPE, FIELD_REQUEST_ID, FIELD_RESPONSE_ID,
    FIELD_ERROR_CODE, FIELD_ERROR_MESSAGE]

/-- A cluster-info document: the base, `containerSupport`, the image members when containers are supported (the default
image only when it is not empty), `queues` when there are queues, then the three arrays. -/
theorem clusterInfo_toJson (code : ResponseType → Int) (r : ResponseImpl) (c : ClusterInfo) :
    ClusterInfoResponse.toJson code r c = Response.toJson code r ++ [(FIELD_CONTAINER_SUPPORT, .bool c.SupportsContainers)] ++
      (if c.SupportsContainers then
        (if c.DefaultImage.isEmpty then [] else [(FIELD_DEFAULT_IMAGE, .str c.DefaultImage)]) ++
          [(FIELD_ALLOW_UNKNOWN_IMAGES, .bool c.AllowUnknownImages), (FIELD_IMAGES, .arr (c.ContainerImages.map .str))]
      else []) ++
      (if c.Queues.isEmpty then [] else [(FIELD_QUEUES, .arr (c.Queues.map .str))]) ++
      [(FIELD_CONFIG, .arr c.Config), (FIELD_RESOURCE_LIMITS, .arr c.ResourceLimits),
        (FIELD_PLACEMENT_CONSTRAINTS, .arr c.PlacementConstraints)] := by
  unfold ClusterInfoResponse.toJson
  cases c.SupportsContainers <;> cases c.DefaultImage.isEmpty <;> cases c.Queues.isEmpty <;>
    simp [response_toJson, insert_fresh, FIELD_MESSAGE_TYPE, FIELD_REQUEST_ID, FIELD_RESPONSE_ID,
      FIELD_CONTAINER_SUPPORT, FIELD_DEFAULT_IMAGE, FIELD_ALLOW_UNKNOWN_IMAGES, FIELD_IMAGES, FIELD_QUEUES, FIELD_CONFIG,
      FIELD_RESOURCE_LIMITS, FIELD_PLACEMENT_CONSTRAINTS]

/-- Every document is the base followed by the subtype's members. -/
theorem toJson_base (code : ResponseType → Int) (version : Int × Int × Int) (r : ResponseImpl) (b : Body) :
    ∃ rest, b.toJson code version r = Response.toJson code r ++ rest := by
  cases b with
  | bootstrap => exact ⟨_, bootstrap_toJson code version r⟩
  | error e m => exact ⟨_, error_toJson code r e m⟩
  | heartbeat => exact ⟨[], (List.append_nil _).symm⟩
  | clusterInfo c =>
    exact ⟨_, by rw [Body.toJson, clusterInfo_toJson, List.append_assoc, List.append_assoc, List.append_assoc]⟩

/-- The base members are found by name in every document. -/
theorem toJson_lookup (code : ResponseType → Int) (version : Int × Int × Int) (r : ResponseImpl) (b : Body) :
    (b.toJson code version r).lookup FIELD_MESSAGE_TYPE = some (.int (code r.ResponseType)) ∧
    (b.toJson code version r).lookup FIELD_REQUEST_ID = some (.uint r.RequestId) ∧
    (b.toJson code version r).lookup FIELD_RESPONSE_ID = some (.uint r.ResponseId) := by
  obtain ⟨rest, h⟩ := toJson_base code version r b
  simp [h, response_toJson, List.lookup_cons, FIELD_MESSAGE_TYPE, FIELD_REQUEST_ID, FIELD_RESPONSE_ID]

/-! ## The documents of a run -/

/-- The arguments each subtype's constructor passes to `Response::Response`: its type and the request id it was
given; `HeartbeatResponse()` passes `0`. -/
def Body.responseArgs (b : Body) (requestId : Nat) : ResponseType × Nat :=
  match b with
  | .heartbeat => (.heartbeat, 0)
  | b => (b.type, requestId)

/-- The `Response::Response` calls of a run of constructions, each a body and the request id its constructor is
given. -/
def responseCalls (run : List (Body × Nat)) : List (ResponseType × Nat) := run.map fun p => p.1.responseArgs p.2

/-- The documents of a run: the responses constructed in turn from the counter's initial value, each written by its
subtype's `toJson`. -/
def documents (code : ResponseType → Int) (version : Int × Int × Int) (run : List (Body × Nat)) :
    List (List (String × Value)) :=
  List.zipWith (fun p r => p.1.toJson code version r) run (construct NEXT_RESPONSE_ID (responseCalls run)).1

@[simp] theorem responseArgs_fst (b : Body) (q : Nat) : (b.responseArgs q).1 = b.type := by
  cases b <;> rfl

/-- The `i`-th response of a run, from a counter below `2^64`: the type and request id it was given, and the id `0`
when it is out of band, else the counter moved on by the substantive responses before it. -/
theorem construct_getElem? : ∀ (next : Nat) (ts : List (ResponseType × Nat)) (i : Nat), next < idSpace →
    (construct next ts).1[i]? = ts[i]?.map fun p =>
      ⟨p.1, p.2, if p.1.isOutOfBand then 0 else (next + (substantive (ts.take i)).length) % idSpace⟩
  | _, [], _, _ => rfl
  | next, (t, q) :: ts, 0, h => by
    cases ht : t.isOutOfBand
    · simp [construct, create_substantive q ht, Nat.mod_eq_of_lt h, ht, substantive]
    · simp [construct, create_outOfBand q ht, ht]
  | next, (t, q) :: ts, i + 1, h => by
    cases ht : t.isOutOfBand
    · have := construct_getElem? ((next + 1) % idSpace) ts i (Nat.mod_lt _ (by decide))
      simp only [construct, create_substantive q ht, List.getElem?_cons_succ, this, List.take_succ_cons]
      simp [substantive, ht, Nat.mod_add_mod, Nat.add_assoc, Nat.add_comm 1]
    · have := construct_getElem? next ts i h
      simp only [construct, create_outOfBand q ht, List.getElem?_cons_succ, this, List.take_succ_cons]
      simp [substantive, ht]

/-- **What a run of responses writes.**  Whatever responses a run constructs, in the order their constructions step on
the counter from its initial value, the document of the `i`-th carries its type's value, the request id its
constructor passed (`0` for a heartbeat), and its response id: `0` for a HEARTBEAT or ERROR response, and otherwise
the number of substantive responses constructed before it, modulo `2^64`. -/
theorem documents_members (code : ResponseType → Int) (version : Int × Int × Int) (run : List (Body × Nat))
    {i : Nat} {b : Body} {q : Nat} (hi : run[i]? = some (b, q)) :
    ∃ doc, (documents code version run)[i]? = some doc ∧
      doc.lookup FIELD_MESSAGE_TYPE = some (.int (code b.type)) ∧
      doc.lookup FIELD_REQUEST_ID = some (.uint (b.responseArgs q).2) ∧
      doc.lookup FIELD_RESPONSE_ID = some (.uint (if b.type.isOutOfBand then 0 else
        (substantive (responseCalls (run.take i))).length % idSpace)) := by
  have hc : (responseCalls run)[i]? = some (b.responseArgs q) := by simp [responseCalls, hi]
  have hr := construct_getElem? NEXT_RESPONSE_ID (responseCalls run) i (by decide)
  have ht : (responseCalls run).take i = responseCalls (run.take i) := by simp [responseCalls]
  rw [hc, Option.map_some', responseArgs_fst, ht, NEXT_RESPONSE_ID, Nat.zero_add] at hr
  exact ⟨_, by rw [documents, List.getElem?_zipWith, hi, NEXT_RESPONSE_ID, hr], toJson_lookup code version _ b⟩

theorem documents_members_clusterInfo :
    [(Body.heartbeat, 7), (.bootstrap, 1), (.error 3 "unknown job", 2), (.clusterInfo (ClusterInfo.new [] [] [] []), 4)][3]? =
      some (.clusterInfo (ClusterInfo.new [] [] [] []), 4) ∧
    ∃ doc, (documents (fun _ => 0) (1, 0, 0) [(Body.heartbeat, 7), (.bootstrap, 1), (.error 3 "unknown job", 2),
        (.clusterInfo (ClusterInfo.new [] [] [] []), 4)])[3]? = some doc ∧
      doc.lookup FIELD_MESSAGE_TYPE = some (.int 0) ∧ doc.lookup FIELD_REQUEST_ID = some (.uint 4) ∧
      doc.lookup FIELD_RESPONSE_ID = some (.uint 1) :=
  ⟨rfl, documents_members (fun _ => 0) (1, 0, 0) [(Body.heartbeat, 7), (.bootstrap, 1), (.error 3 "unknown job", 2),
    (.clusterInfo (ClusterInfo.new [] [] [] []), 4)] (i := 3) rfl⟩

end Api
end Launcher
