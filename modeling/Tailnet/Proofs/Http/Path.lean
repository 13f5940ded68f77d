import Tailnet.Proofs.Http.Client
import Tailnet.Proofs.Http.Percent
import Tailnet.Proofs.Http.Trace
import Tailnet.Proofs.Text.Cut

/-!
Where requests go. The path of an order holds the name of the client's tailnet as one segment, so
that it belongs to this tailnet and to no other. A URL is more than its path: along it, one or two
dots are steps and not names, and only a tailnet that is called so is left on the way.
-/

namespace Tailnet.Http

/-- A segment of a path that stands for a name. Nothing in it ends the segment or the path, and the
name can be read from it. -/
structure StandsFor (part name : String) : Prop where
  escaped : Escaped part.toList
  inside : '/' ∉ part.toList ∧ '?' ∉ part.toList ∧ '#' ∉ part.toList
  bytes : unescape part.toList = Text.bytesOf name
  plain : Url.plain part = name

theorem StandsFor.ofSegment (name : String) : StandsFor (String.ofList (segment name)) name := by
  have hEscaped := Escaped.ofSegment name
  rw [← String.toList_ofList (l := segment name)] at hEscaped
  refine ⟨hEscaped, ⟨?_, ?_, ?_⟩, ?_, Url.plain_segment name⟩
  · exact hEscaped.notMem (by decide) (by decide)
  · exact hEscaped.notMem (by decide) (by decide)
  · exact hEscaped.notMem (by decide) (by decide)
  · rw [String.toList_ofList, unescape_segment]

/-- Different names have different segments. -/
theorem segment_injective : Function.Injective segment := by
  intro name other hEq
  rw [← Url.plain_segment name, hEq, Url.plain_segment]

namespace Client

variable {client : Client}

/-- A path tells the tailnet and what stands behind it. -/
theorem path_eq_path_iff {other : Client} {suffix suffix' : String} :
    other.path suffix' = client.path suffix ↔
      other.tailnet = client.tailnet ∧ suffix' = suffix := by
  constructor
  · intro hEq
    have hSlash (name : String) : '/' ∉ segment name :=
      (Escaped.ofSegment name).notMem (by decide) (by decide)
    rw [path, path, ← String.toList_inj] at hEq
    simp only [String.toList_append, String.toList_ofList, List.append_assoc,
      List.append_cancel_left_eq] at hEq
    obtain ⟨hName, hSuffix⟩ := Text.append_sep_inj (hSlash _) (hSlash _) hEq
    exact ⟨segment_injective hName, String.toList_inj.mp hSuffix⟩
  · rintro ⟨hName, rfl⟩
    rw [path, path, hName]

/-- Whatever the tailnet of a client is called, the paths of all its orders hold the name as one
segment, from which it can be read, and no path of another tailnet is the same, whatever either goes
on with. -/
theorem path_confines (client : Client) :
    (∀ call, (client.order call).path = client.path call.suffix) ∧
      client.readAcl.path = client.path "acl" ∧
      ∀ suffix, ∃ part, client.path suffix = "/tailnet/" ++ part ++ "/" ++ suffix ∧
        StandsFor part client.tailnet ∧
        ∀ (other : Client) (suffix' : String), other.path suffix' = client.path suffix ↔
          other.tailnet = client.tailnet ∧ suffix' = suffix := by
  refine ⟨path_order client, rfl, fun suffix => ?_⟩
  refine ⟨String.ofList (segment client.tailnet), rfl, .ofSegment client.tailnet, ?_⟩
  exact fun other suffix' => path_eq_path_iff

/-! Where paths lead. -/

/-- Where the path of something in the client's tailnet leads at the default host. A name of one dot
is passed over, and one of two dots leads back. -/
def landing (client : Client) (suffix : String) : String :=
  if client.tailnet = "." then "/api/v2/tailnet/" ++ suffix
  else if client.tailnet = ".." then "/api/v2/" ++ suffix
  else "/api/v2" ++ client.path suffix

/-- The name of the tailnet is one segment of the path from the root. -/
theorem parts_default_path (client : Client) (suffix : String) :
    Text.parts '/' ("/api/v2" ++ client.path suffix) =
      ["", "api", "v2", "tailnet"] ++ String.ofList (segment client.tailnet) ::
        Text.parts '/' suffix := by
  have hPath : "/api/v2" ++ client.path suffix = "/api/v2/tailnet" ++ String.singleton '/' ++
      (String.ofList (segment client.tailnet) ++ String.singleton '/' ++ suffix) := by
    simp only [path, ← String.append_assoc]
    rfl
  have hStart : Text.parts '/' "/api/v2/tailnet" = ["", "api", "v2", "tailnet"] := by decide +kernel
  have hName := Text.parts_of_notMem (StandsFor.ofSegment client.tailnet).inside.1
  rw [hPath, Text.parts_append, Text.parts_append, hStart, hName, List.singleton_append]

theorem withoutDots_path (client : Client) {suffix : String}
    (hSuffix : ∀ part ∈ Text.parts '/' suffix, part ≠ "." ∧ part ≠ "..") :
    Url.withoutDots ("/api/v2" ++ client.path suffix) = client.landing suffix := by
  have hStart : ∀ part ∈ ["", "api", "v2", "tailnet"], part ≠ "." ∧ part ≠ ".." := by decide
  have hParts := client.parts_default_path suffix
  have hJoin (front : List String) (hFront : front ≠ []) :
      Text.joinWith "/" (front ++ Text.parts '/' suffix) =
        Text.joinWith "/" front ++ "/" ++ suffix := by
    rw [Text.joinWith_append _ hFront (Text.parts_ne_nil _ _)]
    exact congrArg _ (Text.joinWith_parts '/' suffix)
  rw [landing]
  split
  case isTrue hDot =>
    have hStep : String.ofList (segment ".") = "." := by decide +kernel
    rw [Url.withoutDots, hParts, hDot, hStep, Url.walkSegments_append [] hStart, Url.walkSegments,
      Url.walkSegments_eq_append _ hSuffix, hJoin _ (by decide)]
    rfl
  split
  case isTrue hDots =>
    have hStep : String.ofList (segment "..") = ".." := by decide +kernel
    rw [Url.withoutDots, hParts, hDots, hStep, Url.walkSegments_append [] hStart,
      Url.walkSegments, Url.walkSegments_eq_append _ hSuffix, hJoin _ (by decide)]
    rfl
  case isFalse hDot hDots =>
    have hName {name : String} (hEq : String.ofList (segment client.tailnet) = name)
        (hRead : Url.plain name = name) : client.tailnet = name := by
      rw [← Url.plain_segment client.tailnet, hEq, hRead]
    refine Url.withoutDots_eq_self ?_
    rw [hParts]
    exact List.forall_mem_append.mpr ⟨hStart, List.forall_mem_cons.mpr
      ⟨⟨fun hEq => hDot (hName hEq (by decide +kernel)),
        fun hEq => hDots (hName hEq (by decide +kernel))⟩, hSuffix⟩⟩

/-- What is meant for a tailnet called by two dots is set for all. -/
example : landing ⟨none, "..", defaultBaseUrl, .int 30, 3, .usual⟩ "acl" = "/api/v2/acl" := by
  decide

/-- Only a name that is a step leads elsewhere. -/
theorem landing_eq_iff {suffix : String} :
    client.landing suffix = "/api/v2" ++ client.path suffix ↔
      client.tailnet ≠ "." ∧ client.tailnet ≠ ".." := by
  have hLength (start : String) (hStart : start.length ≤ "/api/v2/tailnet/".length) :
      start ++ suffix ≠ "/api/v2" ++ client.path suffix := by
    intro hEq
    have hLengths := congrArg String.length hEq
    simp only [path, String.length_append] at hLengths hStart
    have hConstants : "/api/v2/tailnet/".length = 16 ∧ "/api/v2".length = 7 ∧
        "/tailnet/".length = 9 ∧ "/".length = 1 := by decide
    omega
  rw [landing]
  split
  case isTrue hDot =>
    exact iff_of_false (hLength _ (by decide)) fun h => h.1 hDot
  split
  case isTrue hDots =>
    exact iff_of_false (hLength _ (by decide)) fun h => h.2 hDots
  case isFalse hDot hDots => exact iff_of_true rfl ⟨hDot, hDots⟩

/-- Nothing that a call is about leads anywhere else. -/
theorem ne_dots_of_mem_suffixes {suffix : String} (hSuffix : suffix ∈ suffixes) :
    ∀ part ∈ Text.parts '/' suffix, part ≠ "." ∧ part ≠ ".." := by
  have hSuffixes : ∀ suffix ∈ suffixes, ∀ part ∈ Text.parts '/' suffix,
      part ≠ "." ∧ part ≠ ".." := by decide +kernel
  exact hSuffixes suffix hSuffix

theorem isPathChar_landing (client : Client) {suffix : String} (hSuffix : suffix ∈ suffixes) :
    ∀ c ∈ (client.landing suffix).toList, Url.isPathChar c = true := by
  have hStart : "/api/v2/tailnet/".toList.all Url.isPathChar = true ∧
      "/api/v2/".toList.all Url.isPathChar = true ∧
      "/api/v2".toList.all Url.isPathChar = true := by decide
  simp only [List.all_eq_true] at hStart
  have hOwn := isPathChar_suffix hSuffix
  rw [landing]
  split
  · rw [String.toList_append, List.forall_mem_append]
    exact ⟨hStart.1, hOwn⟩
  split
  · rw [String.toList_append, List.forall_mem_append]
    exact ⟨hStart.2.1, hOwn⟩
  · rw [String.toList_append, List.forall_mem_append]
    exact ⟨hStart.2.2, isPathChar_path client hSuffix⟩

/-- A request for a call of a client with the default base URL. -/
structure Requests (client : Client) (call : Call) (request : Request) : Prop where
  base : client.baseUrl = defaultBaseUrl
  suffix : call.suffix ∈ suffixes
  request : client.request (client.order call) = .ok request

namespace Requests

variable {call : Call} {request : Request}

/-- A request goes where the path of its order leads. -/
theorem url (h : client.Requests call request) :
    request.url = Url.atDefaultHost (client.landing call.suffix) := by
  obtain ⟨url, query, hUrl, hQuery, hTarget⟩ := (carries_of_request h.request).url
  rw [Client.query, parameters_order] at hQuery
  cases hQuery
  rw [hTarget]
  rw [Client.url, path_order, root_of_default h.base] at hUrl
  obtain ⟨read, hRead, hFull⟩ := bind_eq_ok_iff.mp hUrl
  have hPlace := Url.eq_of_read_default (client.toList_default_path call.suffix)
    (client.isPathChar_default_path h.suffix) hRead
  have hPath : String.ofList ('/' :: ("api/v2" ++ client.path call.suffix).toList) =
      "/api/v2" ++ client.path call.suffix := by
    rw [← String.toList_inj, String.toList_ofList, String.toList_append, String.toList_append]
    rfl
  rw [hPath, withoutDots_path client (ne_dots_of_mem_suffixes h.suffix),
    escapeMore_eq_self (client.isPathChar_landing h.suffix), String.ofList_toList] at hPlace
  rw [hPlace] at hFull
  exact (Except.ok.inj hFull).symm

/-- A request stays inside its tailnet, at the path of its order, exactly if the tailnet is not
called by one or two dots. -/
theorem stays_iff (h : client.Requests call request) :
    request.url = Url.atDefaultHost ("/api/v2" ++ client.path call.suffix) ↔
      client.tailnet ≠ "." ∧ client.tailnet ≠ ".." := by
  rw [h.url, Url.atDefaultHost, Url.atDefaultHost]
  simp only [Url.mk.injEq, true_and, and_true]
  exact landing_eq_iff

/-- Requests for two tailnets go to different places. -/
theorem eq_of_url_eq {other : Client} {otherCall : Call} {otherRequest : Request}
    (h : client.Requests call request) (hOther : other.Requests otherCall otherRequest)
    (hName : client.tailnet ≠ "." ∧ client.tailnet ≠ "..")
    (hOtherName : other.tailnet ≠ "." ∧ other.tailnet ≠ "..")
    (hUrl : otherRequest.url = request.url) :
    other.tailnet = client.tailnet ∧ otherCall.suffix = call.suffix := by
  rw [h.stays_iff.mpr hName, hOther.stays_iff.mpr hOtherName] at hUrl
  have hPath : "/api/v2" ++ other.path otherCall.suffix = "/api/v2" ++ client.path call.suffix :=
    congrArg Url.path hUrl
  exact path_eq_path_iff.mp (Text.append_right_injective _ hPath)

end Requests

end Client

end Tailnet.Http
