import RequestRouter.Demo
import RequestRouter.Proofs.Pattern.Paths

/-!
# The pages of the demo application

The route table of the demo, and the methods and paths that its routes take, each with the form of
its path. The application accepts what one of the described routes does.
-/

namespace RequestRouter

/-- A request of the route's method, whose path the route's pattern uses up. -/
def RouteDescription.Accepts (d : RouteDescription) (method : Method) (path : String) : Prop :=
  method = d.method ∧ Pattern.leftOf d.path path = some ""

instance (d : RouteDescription) (method : Method) (path : String) :
    Decidable (d.Accepts method path) :=
  inferInstanceAs (Decidable (_ ∧ _))

/-- A leaf below one pattern accepts what its description does. -/
theorem Leaf.accepts_describe_iff {leaf : Leaf} {source : String} (only : leaf.patterns = [source])
    {method : Method} {path : String} :
    (leaf.describe "").Accepts method path ↔ leaf.Accepts method path := by
  rw [RouteDescription.Accepts, Leaf.Accepts, Leaf.describe, only]
  simp

namespace Demo

open Pattern

/-- The routes of the application, in the order of precedence. -/
def table : List RouteDescription :=
  [⟨.get, "/hello", []⟩, ⟨.get, "/hello/:name", []⟩, ⟨.get, "/greet", []⟩,
    ⟨.get, "/user/:userId/name", ["userId"]⟩, ⟨.post, "/user/:userId/age", ["userId"]⟩,
    ⟨.get, "/static/*file", []⟩, ⟨.get, "/boom", []⟩, ⟨.get, "/metrics", []⟩]

def UserPath (page path : String) : Prop :=
  ∃ user, IsSegment user ∧ path = "/user/" ++ user ++ page

/-- A request that the application has a page for. -/
inductive Page : Method → String → Prop where
  | hello : Page .get "/hello"
  | helloName {name : String} (segment : IsSegment name) : Page .get ("/hello/" ++ name)
  | greet : Page .get "/greet"
  | userName {path : String} (user : UserPath "/name" path) : Page .get path
  | userAge {path : String} (user : UserPath "/age" path) : Page .post path
  | staticFile {file : String} (rest : IsRest file) : Page .get ("/static/" ++ file)
  | boom : Page .get "/boom"
  | metrics : Page .get "/metrics"

section Paths

variable {path : String}

theorem leftOf_literals_iff (source : String) {p : Pattern} (compiled : compile source = .ok p)
    (plain : p.tokens = source.toList.map .literal) :
    leftOf source path = some "" ↔ path = source := by
  rw [leftOf_literals compiled plain, String.append_empty]

theorem leftOf_helloName_iff :
    leftOf "/hello/:name" path = some "" ↔ ∃ name, IsSegment name ∧ path = "/hello/" ++ name := by
  refine Iff.trans (leftOf_last rfl "/hello/" (.segment "name") rfl) ?_
  simp [fills_segment_iff]

theorem leftOf_staticFile_iff :
    leftOf "/static/*file" path = some "" ↔ ∃ file, IsRest file ∧ path = "/static/" ++ file := by
  refine Iff.trans (leftOf_last rfl "/static/" (.rest "file") rfl) ?_
  simp [fills_rest_iff]

theorem leftOf_user_iff {left : String} : leftOf "/user/:userId" path = some left ↔
    ∃ user, IsSegment user ∧ path = "/user/" ++ user ++ left ∧
      ∀ c ∈ left.toList.head?, isSegmentChar c = false := by
  refine Iff.trans (leftOf_last rfl "/user/" (.segment "userId") rfl) ?_
  simp only [fills_segment_iff]

/-- The pattern of a page below a user: the user ends at the slash of the page. -/
theorem leftOf_userPage_iff (source page : String) {p : Pattern}
    (compiled : compile source = .ok p) (slash : page.toList.head? = some '/')
    (tokens : p.tokens =
      "/user/".toList.map .literal ++ .segment "userId" :: page.toList.map .literal) :
    leftOf source path = some "" ↔ UserPath page path := by
  rw [leftOf_between compiled "/user/" page (.segment "userId") slash rfl tokens]
  simp [fills_segment_iff, UserPath]

/-- The same page behind the pattern of the user. -/
theorem leftOf_user_bind_iff {page : String} {p : Pattern} (compiled : compile page = .ok p)
    (slash : page.toList.head? = some '/') (plain : p.tokens = page.toList.map .literal) :
    ((leftOf "/user/:userId" path).bind fun left => leftOf page left) = some "" ↔
      UserPath page path := by
  simp only [Option.bind_eq_some_iff, leftOf_user_iff, leftOf_literals_iff page compiled plain]
  constructor
  · rintro ⟨left, ⟨user, segment, split, -⟩, rfl⟩
    exact ⟨user, segment, split⟩
  · rintro ⟨user, segment, split⟩
    refine ⟨page, ⟨user, segment, split, fun c first => ?_⟩, rfl⟩
    rw [slash] at first
    cases first
    rfl

end Paths

/-- The routes take the requests that the application has a page for. -/
theorem exists_accepts_iff {method : Method} {path : String} :
    (∃ d ∈ table, d.Accepts method path) ↔ Page method path := by
  simp only [table, List.exists_mem_cons_iff, List.not_mem_nil, false_and, exists_false, or_false,
    RouteDescription.Accepts, leftOf_helloName_iff, leftOf_staticFile_iff,
    leftOf_literals_iff "/hello" rfl rfl, leftOf_literals_iff "/greet" rfl rfl,
    leftOf_literals_iff "/boom" rfl rfl, leftOf_literals_iff "/metrics" rfl rfl,
    leftOf_userPage_iff "/user/:userId/name" "/name" rfl rfl rfl,
    leftOf_userPage_iff "/user/:userId/age" "/age" rfl rfl rfl]
  constructor
  · rintro (⟨rfl, rfl⟩ | ⟨rfl, name, segment, rfl⟩ | ⟨rfl, rfl⟩ | ⟨rfl, user⟩ | ⟨rfl, user⟩ |
      ⟨rfl, file, rest, rfl⟩ | ⟨rfl, rfl⟩ | ⟨rfl, rfl⟩)
    · exact .hello
    · exact .helloName segment
    · exact .greet
    · exact .userName user
    · exact .userAge user
    · exact .staticFile rest
    · exact .boom
    · exact .metrics
  · rintro (_ | segment | _ | user | user | rest | _ | _) <;> simp_all

/-! ## The leaves -/

def above : List Hop :=
  [.layer (.metrics meter), .layer .tracing, .layer .profile, .layer .serverFault,
    .layer .notFound]

def leafAt (pattern : String) (handler : Handler) : Leaf :=
  ⟨above ++ [.pattern pattern], .ofHandler .get handler⟩

def greetLeaf : Leaf :=
  ⟨above ++ [.layer (.cookies (some nameSchema)), .pattern "/greet"],
    (Endpoint.ofHandler .get greet).requiresMixin cookiesMixin nameSchema⟩

def nameLeaf : Leaf :=
  ⟨above ++ [.pattern "/user/:userId", .pattern "/name"],
    (Endpoint.ofHandler .get userName).requiresParams userSchema⟩

def ageLeaf (policy : ConversionPolicy) : Leaf :=
  ⟨above ++ [.pattern "/user/:userId", .layer (.jsonBody ageSchema policy), .pattern "/age"],
    ((Endpoint.ofHandler .post userAge).requiresParams userSchema).requiresBody ageSchema⟩

theorem leaves_application (settings : Settings) : (application settings).leaves =
    [leafAt "/hello" hello, leafAt "/hello/:name" helloName, greetLeaf, nameLeaf,
      ageLeaf settings.bodyPolicy, leafAt "/static/*file" staticFile, leafAt "/boom" boom,
      leafAt "/metrics" metrics] :=
  rfl

/-- A leaf below a user accepts what its description does. -/
theorem accepts_describe_user_iff {leaf : Leaf} {page : String} {p q : Pattern}
    (two : leaf.patterns = ["/user/:userId", page])
    (slash : page.toList.head? = some '/')
    (alone : compile page = .ok p) (plain : p.tokens = page.toList.map .literal)
    (whole : compile ("/user/:userId" ++ page) = .ok q)
    (tokens : q.tokens =
      "/user/".toList.map .literal ++ .segment "userId" :: page.toList.map .literal)
    {method : Method} {path : String} :
    (leaf.describe "").Accepts method path ↔ leaf.Accepts method path := by
  have described : (leaf.describe "").path = "/user/:userId" ++ page := by
    simp [Leaf.describe, two]
  have cut : ["/user/:userId", page].foldlM (fun path source => leftOf source path) path =
      (leftOf "/user/:userId" path).bind fun left => leftOf page left := by
    simp
  rw [RouteDescription.Accepts, Leaf.Accepts, described, two, cut,
    leftOf_userPage_iff _ page whole slash tokens, leftOf_user_bind_iff alone slash plain]
  rfl

theorem accepts_describe_iff {settings : Settings} {leaf : Leaf}
    (listed : leaf ∈ (application settings).leaves) {method : Method} {path : String} :
    (leaf.describe "").Accepts method path ↔ leaf.Accepts method path := by
  rw [leaves_application] at listed
  simp only [List.mem_cons, List.not_mem_nil, or_false] at listed
  rcases listed with rfl | rfl | rfl | rfl | rfl | rfl | rfl | rfl
  · exact Leaf.accepts_describe_iff rfl
  · exact Leaf.accepts_describe_iff rfl
  · exact Leaf.accepts_describe_iff rfl
  · exact accepts_describe_user_iff rfl rfl rfl rfl rfl rfl
  · exact accepts_describe_user_iff rfl rfl rfl rfl rfl rfl
  · exact Leaf.accepts_describe_iff rfl
  · exact Leaf.accepts_describe_iff rfl
  · exact Leaf.accepts_describe_iff rfl

theorem accepts_application_iff (settings : Settings) {method : Method} {path : String} :
    (application settings).accepts method path.toList = true ↔
      ∃ d ∈ table, d.Accepts method path := by
  have described : table = (application settings).leaves.map (Leaf.describe "") := rfl
  rw [RouteTree.accepts_iff, described]
  constructor
  · rintro ⟨leaf, listed, accepts⟩
    exact ⟨_, List.mem_map_of_mem listed, (accepts_describe_iff listed).2 accepts⟩
  · rintro ⟨d, listed, accepts⟩
    obtain ⟨leaf, own, rfl⟩ := List.mem_map.1 listed
    exact ⟨leaf, own, (accepts_describe_iff own).1 accepts⟩

end Demo

end RequestRouter
