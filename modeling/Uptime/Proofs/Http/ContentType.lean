import Uptime.Probe.Run
import Uptime.Proofs.Http.Fields

/-!
# The type of a posted body

A later field of a configuration replaces an earlier one of its name, but the type of posted data
is added and replaces nothing. So a request that posts is sent with one type, that of JSON, just if
no type is configured (`request_typed`), and else with two (`json_not_alone`). Any other request has
the type that is configured last, or none.
-/

namespace Uptime

namespace Http

namespace Headers

variable {hs : Headers}

/-- Where each name occurs once, a field has one value or none. -/
theorem values_eq (nodup : (hs.map (·.1)).Nodup) (name : String) :
    hs.values name = (hs.get? name).toList := by
  induction hs with
  | nil => rfl
  | cons h hs ih =>
    obtain ⟨key, value⟩ := h
    obtain ⟨new, nodup⟩ := List.nodup_cons.1 nodup
    by_cases same : key = name
    · have rest : hs.filter (fun h => h.1 = name) = [] := by
        refine List.filter_eq_nil_iff.2 fun h mem again => new ?_
        exact List.mem_map.2 ⟨h, mem, (of_decide_eq_true again).trans same.symm⟩
      simp [values, get?, same, rest]
    · have other : (name == key) = false := beq_eq_false_iff_ne.2 (Ne.symm same)
      simpa [values, get?, List.lookup_cons, same, other] using ih nodup

theorem values_append (hs : Headers) (name : String) (value : List UInt8) :
    (hs.append name value).values name = hs.values name ++ [value] := by
  simp [values, append]

end Headers

/-- A method is the one that posts just if it is written so, in any case of its letters and with any
blanks around it. -/
theorem method?_eq_post_iff {text : String} :
    method? text = .ok Request.post ↔ text.trimBlanks.asciiUpper = Request.post := by
  unfold method?
  simp only []
  constructor
  · intro read
    split at read
    · exact absurd (Except.ok.inj read) (by decide)
    · split at read
      · exact Except.ok.inj read
      · cases read
  · intro posts
    rw [posts]
    rfl

/-- What a request has of the method, the fields and the data that it is made with. -/
theorem Request.of_make {method address : String} {headers : Headers} {data : Option String}
    {r : Request} (made : Request.make method address headers data = .ok r) :
    r.method = method ∧
      r.headers = if method = post then headers.append contentType json else headers := by
  have kept {sendable : Bool} {e : RequestError} {whole : Request}
      (made : (if sendable then .ok whole else .error e) = Except.ok r) : whole = r := by
    cases sendable with
    | false => cases made
    | true => exact Except.ok.inj made
  unfold Request.make at made
  split at made
  · cases made
  · split at made
    · cases made
    · obtain rfl := kept made
      exact ⟨rfl, rfl⟩

end Http

open Http (Request Headers)

namespace Target

variable {t : Target} {r : Request}

/-- A target whose method is the one that posts. -/
def Posts (t : Target) : Prop := t.method.trimBlanks.asciiUpper = Request.post

instance : Decidable t.Posts := inferInstanceAs (Decidable (_ = _))

/-- The header fields configured for a target set one, the last time to this value. -/
def Sets (t : Target) (name : String) (value : List UInt8) : Prop :=
  ∃ text, t.headers = some text ∧ Headers.LastSets (text.toList.splitOn ',') name.toList value

theorem get?_contentType {value : List UInt8} :
    (Headers.read t.headers).1.get? Request.contentType = some value ↔
      t.Sets "Content-Type" value := by
  have kept : Request.contentType = String.ofList (Text.lower "Content-Type".toList) := by decide
  unfold Sets
  cases t.headers with
  | none => simp [Headers.read, Headers.get?]
  | some text => simp only [kept, Headers.get?_read_eq_some_iff, Option.some.injEq, exists_eq_left']

/-- The types of a body that a request is sent with: those configured, and that of posted data. -/
theorem values_contentType (asked : t.request.1 = .ok r) :
    r.headers.values Request.contentType =
      ((Headers.read t.headers).1.get? Request.contentType).toList ++
        if t.Posts then [Request.json] else [] := by
  unfold request at asked
  split at asked
  · cases asked
  · next method written =>
    obtain ⟨-, headers⟩ := Request.of_make asked
    have posts : method = Request.post ↔ t.Posts := by
      rw [Posts, ← Http.method?_eq_post_iff, written]
      exact ⟨congrArg _, Except.ok.inj⟩
    rw [headers, ← Headers.values_eq (Headers.distinct_read t.headers).nodup]
    by_cases post : t.Posts
    · rw [if_pos post, if_pos (posts.2 post), Headers.values_append]
    · rw [if_neg post, if_neg (mt posts.1 post), List.append_nil]

/-- An attempt depends on the web by the answer to the request alone. -/
theorem attempt_of_same_answer (http : t.kind = .http) (asked : t.request.1 = .ok r) {w : World}
    {web : Http.Web} (same : web r = w.web r) :
    t.attempt { w with web } = t.attempt w := by
  have tried : t.tryHttp (w.lookup t) w.hasClient web =
      t.tryHttp (w.lookup t) w.hasClient w.web := by
    unfold tryHttp
    split
    · rfl
    · simp only [asked, Except.bind, same]
  rw [attempt, attempt, http]
  exact tried

/-- What the request that a target asks for says about the type of its body. -/
structure TypesBody (t : Target) (r : Request) : Prop where
  /-- It is the only request that an attempt sends. -/
  sent : ∀ (w : World) (web : Http.Web), t.kind = .http → web r = w.web r →
    t.attempt { w with web } = t.attempt w
  /-- Posted data is JSON, -/
  posted : t.Posts → (∀ value, ¬t.Sets "Content-Type" value) →
    r.headers.values Request.contentType = [Request.json]
  /-- also where another type is configured, which is sent in front of it then. -/
  postedBeside : t.Posts → ∀ value, t.Sets "Content-Type" value →
    r.headers.values Request.contentType = [value, Request.json]
  /-- Where nothing is posted, the type that is configured last is sent, -/
  configured : ¬t.Posts → ∀ value, t.Sets "Content-Type" value →
    r.headers.values Request.contentType = [value]
  /-- and none if none is configured. -/
  unconfigured : ¬t.Posts → (∀ value, ¬t.Sets "Content-Type" value) →
    r.headers.values Request.contentType = []

/-- A request that posts has the type of JSON, behind the one that is configured if one is; any
other has just the configured one. -/
theorem request_typed (asked : t.request.1 = .ok r) : t.TypesBody r := by
  have values := values_contentType asked
  have none (unset : ∀ value, ¬t.Sets "Content-Type" value) :
      (Headers.read t.headers).1.get? Request.contentType = none :=
    Option.eq_none_iff_forall_ne_some.2 fun value set => unset value (get?_contentType.1 set)
  constructor
  case sent => exact fun _ _ http same => attempt_of_same_answer http asked same
  case posted =>
    intro post unset
    rw [values, none unset, if_pos post]
    rfl
  case postedBeside =>
    intro post value set
    rw [values, get?_contentType.2 set, if_pos post]
    rfl
  case configured =>
    intro other value set
    rw [values, get?_contentType.2 set, if_neg other]
    rfl
  case unconfigured =>
    intro other unset
    rw [values, none unset, if_neg other]
    rfl

/-- A target that posts a text and names its type twice. -/
def labelled : Target :=
  { address := "http://[::1]/", method := " Post ", postData := some "up?",
    headers := some "content-type=text/csv,Content-Type=text/plain" }

theorem request_typed_labelled :
    ∃ r, labelled.request.1 = .ok r ∧ labelled.Posts ∧
      labelled.Sets "Content-Type" "text/plain".toUTF8.toList ∧
      r.headers.values Request.contentType = ["text/plain".toUTF8.toList, Request.json] := by
  have posts : labelled.Posts := by decide +kernel
  have set : labelled.Sets "Content-Type" "text/plain".toUTF8.toList :=
    get?_contentType.1 (by decide +kernel)
  have some : labelled.request.1.isOk = true := by decide +kernel
  cases asked : labelled.request.1 with
  | error e => rw [asked] at some; cases some
  | ok r => exact ⟨r, rfl, posts, set, (request_typed asked).postedBeside posts _ set⟩

/-- The type of JSON is not always the only one that posted data is given. -/
theorem json_not_alone :
    ¬∀ (t : Target) (r : Request), t.request.1 = .ok r → t.Posts →
      r.headers.values Request.contentType = [Request.json] := by
  intro alone
  have posts : labelled.Posts := by decide +kernel
  have two : labelled.request.1.toOption.map (·.headers.values Request.contentType) =
      some ["text/plain".toUTF8.toList, Request.json] := by decide +kernel
  cases asked : labelled.request.1 with
  | error e => rw [asked] at two; cases two
  | ok r =>
    rw [asked] at two
    have same := (Option.some.inj two).symm.trans (alone labelled r asked posts)
    exact absurd (congrArg List.length same) (by simp)

end Target

end Uptime
