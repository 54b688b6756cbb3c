import Endpoint.Converter.Standard
import Endpoint.Interceptor
import Endpoint.Proofs.Headers

/-!
What interceptors do to a request. Those that come with the program put lines behind the headers
that are there, and do nothing else: default headers whose names are missing, the accepted media
types if none are named, and credentials in any case.

What is proved:
  1. `apply_eq`: applying such an interceptor is adding the lines of `added`;
  2. `new_of_mem_added`: these have new names, but for credentials;
  3. `Extends.trans` and `extends_applyAll`: so a chain only adds lines behind those that were
     there, and under a name that was there only the credentials of the chain;
  4. `added_apply` and `added_mono`: an interceptor without credentials has nothing left to add to
     what has become of its request;
  5. `chains_only_extend`: all of it, for every chain and every request.
-/
namespace Endpoint
open Text

def Headers.Lowered (h : Headers) : Prop := ∀ l ∈ h.lines, lowerText l.name = l.name

/-- The value that credentials are sent as: their content, if it is neither blank nor illegal. -/
def Authentication.granted? (a : Authentication) : Option Octets := do
  let content ← a.content
  if trim content.toList = [] then none else Headers.value? content

namespace Interceptor

/-- The interceptors that come with the program. -/
inductive BuiltIn : Interceptor → Prop where
  | credentials (a : Authentication) : BuiltIn (.credentials a)
  | defaults {headers : Headers} : headers.Lowered → BuiltIn (.defaults headers)
  | accept (registry : Registry) : BuiltIn (.accept registry)

def granted? : Interceptor → Option Octets
  | credentials a => a.granted?
  | _ => none

/-- The value that lists the media types from which a type can be read, if there are any and it is
legal. -/
def listed? (registry : Registry) (type : TypeExpr) : Option Octets :=
  match registry.acceptable type.unwrapEnvelope with
  | [] => none
  | mediaTypes => Headers.value? (acceptValue mediaTypes)

/-- The lines that an interceptor adds to a request. -/
def added : Interceptor → Request → List HeaderLine
  | credentials a, _ => a.granted?.toList.map fun value => ⟨authorizationName, value⟩
  | defaults headers, r => headers.grouped.filter fun l => !r.headers.contains l.name
  | accept registry, r =>
    if r.headers.contains acceptName then []
    else (listed? registry r.expected).toList.map fun value => ⟨acceptName, value⟩
  | change _, _ => []

def withLines (r : Request) (lines : List HeaderLine) : Request :=
  r.withHeaders ⟨r.headers.lines ++ lines⟩

variable {i : Interceptor} {r r' : Request}

theorem withLines_nil (r : Request) : withLines r [] = r := by
  simp [withLines, Request.withHeaders]

theorem authorize_presented {a : Authentication} {c : String} (hc : presented? a = some c)
    (r : Request) :
    authorize a r = match Headers.value? c with
      | none => .error (.configuration (.header authorizationName .badValue))
      | some value => .ok (r.withHeaders (r.headers.append authorizationName value)) := by
  have hname : Headers.name? authorizationName = some authorizationName := by decide
  simp only [authorize, hc, Request.withHeader, Headers.add, Headers.check, hname]
  cases Headers.value? c <;> rfl

theorem granted?_eq (a : Authentication) : a.granted? = (presented? a).bind Headers.value? := by
  rw [Authentication.granted?, presented?]
  cases a.content with
  | none => rfl
  | some content =>
    by_cases hblank : trim content.toList = []
    · simp [Option.filter, hblank]
    · simp [Option.filter, hblank]

theorem apply_credentials (a : Authentication) (r : Request) :
    (credentials a).apply r = withLines r ((credentials a).added r) := by
  simp only [apply, added, granted?_eq]
  cases hc : presented? a with
  | none => simp [authorize, hc, withLines_nil]
  | some c =>
    rw [authorize_presented hc]
    cases hv : Headers.value? c with
    | none => simp [hv, withLines_nil]
    | some value => simp [hv, withLines, Headers.append]

theorem apply_accept (registry : Registry) (r : Request) :
    (accept registry).apply r = withLines r ((accept registry).added r) := by
  have hname : Headers.name? acceptName = some acceptName := by decide
  simp only [apply, added, negotiate, listed?]
  cases hcontains : r.headers.contains acceptName with
  | true => simp [withLines_nil]
  | false =>
    have hnew : acceptName ∉ r.headers.names := fun hmem => by
      rw [(Headers.contains_iff_mem_names _ _).mpr hmem] at hcontains
      cases hcontains
    cases hlist : registry.acceptable r.expected.unwrapEnvelope with
    | nil => simp [withLines_nil]
    | cons text texts =>
      simp only [Request.withReplacedHeader, Headers.set, Headers.check, hname]
      cases hv : Headers.value? (acceptValue (text :: texts)) with
      | none => simp [bind, Except.bind, withLines_nil]
      | some value =>
        simp [bind, Except.bind, pure, Except.pure, withLines, Headers.put_of_not_mem hnew,
          Request.withHeaders]

/-- **An interceptor adds lines and does nothing else.** -/
theorem apply_eq (hi : i.BuiltIn) (r : Request) : i.apply r = withLines r (i.added r) := by
  cases hi with
  | credentials a => exact apply_credentials a r
  | defaults _ => rfl
  | accept registry => exact apply_accept registry r

theorem added_of_refused {a : Authentication} (h : a.granted? = none) (r : Request) :
    (credentials a).added r = [] := by
  simp [added, h]

theorem added_of_granted {value : Octets} (hg : i.granted? = some value) (r : Request) :
    i.added r = [⟨authorizationName, value⟩] := by
  cases i with
  | credentials a =>
    have hg' : a.granted? = some value := hg
    simp [added, hg']
  | defaults | accept | change => cases hg

theorem new_of_mem_added {l : HeaderLine} (hi : i.BuiltIn) (hg : i.granted? = none)
    (hl : l ∈ i.added r) : l.name ∉ r.headers.names := by
  intro hname
  cases hi with
  | credentials a =>
    rw [added_of_refused hg] at hl
    cases hl
  | @defaults headers hlowered =>
    obtain ⟨hmem, hmissing⟩ := List.mem_filter.mp hl
    have hcontains : r.headers.contains l.name = true := by
      rw [Headers.contains_iff_mem_names, hlowered l (Headers.mem_lines_of_mem_grouped hmem)]
      exact hname
    rw [hcontains] at hmissing
    cases hmissing
  | accept registry =>
    simp only [added] at hl
    split at hl
    · cases hl
    · rename_i hmissing
      obtain ⟨value, -, rfl⟩ := List.mem_map.mp hl
      exact hmissing ((Headers.contains_iff_mem_names _ _).mpr hname)

/-! ## What a chain leaves as it was -/

/-- The second request is the first with more headers. Those that were there come first and keep
their order, and a name that was there has no new values, but for credentials: these gain exactly
the given ones. -/
structure Extends (granted : List Octets) (r r' : Request) : Prop where
  endpoint : r'.endpoint = r.endpoint
  method : r'.method = r.method
  body : r'.body = r.body
  expected : r'.expected = r.expected
  names : r.headers.names <+: r'.headers.names
  values : ∀ name, r.headers.valuesOf name <+: r'.headers.valuesOf name
  kept : ∀ name ∈ r.headers.names, name ≠ authorizationName →
    r'.headers.valuesOf name = r.headers.valuesOf name
  credentials : authorizationName ∈ r.headers.names →
    r'.headers.valuesOf authorizationName = r.headers.valuesOf authorizationName ++ granted

theorem Extends.refl (r : Request) : Extends [] r r :=
  ⟨rfl, rfl, rfl, rfl, List.prefix_rfl, fun _ => List.prefix_rfl, fun _ _ _ => rfl,
    fun _ => (List.append_nil _).symm⟩

theorem Extends.trans {gs gs' : List Octets} {r'' : Request} (h : Extends gs r r')
    (h' : Extends gs' r' r'') : Extends (gs ++ gs') r r'' where
  endpoint := h'.endpoint.trans h.endpoint
  method := h'.method.trans h.method
  body := h'.body.trans h.body
  expected := h'.expected.trans h.expected
  names := h.names.trans h'.names
  values name := (h.values name).trans (h'.values name)
  kept name hname hne := (h'.kept name (h.names.mem hname) hne).trans (h.kept name hname hne)
  credentials hname := by
    rw [h'.credentials (h.names.mem hname), h.credentials hname, List.append_assoc]

theorem valuesOf_withLines (r : Request) (lines : List HeaderLine) (name : String) :
    (withLines r lines).headers.valuesOf name =
      r.headers.valuesOf name ++ (lines.filter (·.name == name)).map (·.value) := by
  simp [withLines, Request.withHeaders, Headers.valuesOf]

theorem names_withLines (r : Request) (lines : List HeaderLine) :
    r.headers.names <+: (withLines r lines).headers.names := by
  simp only [withLines, Request.withHeaders, Headers.names, List.map_append,
    Headers.firsts_append]
  exact List.prefix_append _ _

theorem valuesOf_of_new {lines : List HeaderLine} {name : String}
    (hnew : ∀ l ∈ lines, l.name ∉ r.headers.names) (hname : name ∈ r.headers.names) :
    (withLines r lines).headers.valuesOf name = r.headers.valuesOf name := by
  have hnone : lines.filter (·.name == name) = [] := by
    rw [List.filter_eq_nil_iff]
    intro l hl hsame
    exact hnew l hl (beq_iff_eq.mp hsame ▸ hname)
  rw [valuesOf_withLines, hnone, List.map_nil, List.append_nil]

theorem extends_apply (hi : i.BuiltIn) (r : Request) :
    Extends i.granted?.toList r (i.apply r) := by
  have hvalues (name : String) :
      r.headers.valuesOf name <+: (withLines r (i.added r)).headers.valuesOf name := by
    rw [valuesOf_withLines]
    exact List.prefix_append _ _
  rw [apply_eq hi]
  refine ⟨rfl, rfl, rfl, rfl, names_withLines r _, hvalues, fun name hname hne => ?_,
    fun hname => ?_⟩
  · cases hg : i.granted? with
    | none => exact valuesOf_of_new (fun l hl => new_of_mem_added hi hg hl) hname
    | some value => simp [valuesOf_withLines, added_of_granted hg, Ne.symm hne]
  · cases hg : i.granted? with
    | none =>
      rw [valuesOf_of_new (fun l hl => new_of_mem_added hi hg hl) hname]
      exact (List.append_nil _).symm
    | some value => simp [valuesOf_withLines, added_of_granted hg]

theorem extends_applyAll {chain : List Interceptor} (hchain : ∀ i ∈ chain, i.BuiltIn)
    (r : Request) : Extends (chain.filterMap granted?) r (applyAll chain r) := by
  induction chain generalizing r with
  | nil => exact .refl r
  | cons i chain ih =>
    rw [List.forall_mem_cons] at hchain
    have hrest := (extends_apply hchain.1 r).trans (ih hchain.2 (i.apply r))
    rw [List.filterMap_cons]
    cases hg : i.granted? with
    | none =>
      rw [hg] at hrest
      exact hrest
    | some value =>
      rw [hg] at hrest
      exact hrest

/-! ## Doing it twice -/

theorem contains_withLines {lines : List HeaderLine} {name : String}
    (h : r.headers.contains name = true ∨ ∃ l ∈ lines, l.name = lowerText name) :
    (withLines r lines).headers.contains name = true := by
  simp only [withLines, Request.withHeaders, Headers.contains, List.any_append, Bool.or_eq_true]
  rcases h with h | ⟨l, hl, hname⟩
  · exact .inl h
  · exact .inr (List.any_eq_true.mpr ⟨l, hl, beq_iff_eq.mpr hname⟩)

/-- An interceptor that sends no credentials has nothing to add to what it made of a request. -/
theorem added_apply (hi : i.BuiltIn) (hg : i.granted? = none) (r : Request) :
    i.added (i.apply r) = [] := by
  rw [apply_eq hi]
  cases hi with
  | credentials a => exact added_of_refused hg _
  | @defaults headers hlowered =>
    rw [added, List.filter_eq_nil_iff]
    intro l hl hmissing
    have hcontains : (withLines r ((defaults headers).added r)).headers.contains l.name = true := by
      refine contains_withLines ?_
      cases hl' : r.headers.contains l.name with
      | true => exact .inl rfl
      | false =>
        have hadded : l ∈ (defaults headers).added r := List.mem_filter.mpr ⟨hl, by simp [hl']⟩
        exact .inr ⟨l, hadded, (hlowered l (Headers.mem_lines_of_mem_grouped hl)).symm⟩
    rw [hcontains] at hmissing
    cases hmissing
  | accept registry =>
    have hsame : (withLines r ((accept registry).added r)).expected = r.expected := rfl
    rw [added, hsame]
    split
    · rfl
    · rename_i hmissing
      -- the list was not added either, so there is none
      have haccept : acceptName = lowerText acceptName := by decide
      cases hlist : listed? registry r.expected with
      | none => rfl
      | some value =>
        refine (hmissing (contains_withLines ?_)).elim
        cases hr : r.headers.contains acceptName with
        | true => exact .inl rfl
        | false => exact .inr ⟨⟨acceptName, value⟩, by simp [added, hr, hlist], haccept⟩

/-- An interceptor that has nothing to add to a request has nothing to add to one with more
headers. -/
theorem added_mono {gs : List Octets} (hi : i.BuiltIn) (hg : i.granted? = none)
    (h : Extends gs r r') (hr : i.added r = []) : i.added r' = [] := by
  have hcontains {name : String} (hname : r.headers.contains name = true) :
      r'.headers.contains name = true := by
    rw [Headers.contains_iff_mem_names] at hname ⊢
    exact h.names.mem hname
  cases hi with
  | credentials a => exact hr
  | @defaults headers hlowered =>
    simp only [added, List.filter_eq_nil_iff, Bool.not_eq_true', Bool.not_eq_false] at hr ⊢
    exact fun l hl => hcontains (hr l hl)
  | accept registry =>
    simp only [added, h.expected] at hr ⊢
    split
    · rfl
    · rename_i hmissing
      rw [if_neg (mt hcontains hmissing)] at hr
      exact hr

/-- A chain leaves a request as it is if none of its interceptors has anything to add. -/
theorem applyAll_of_settled {chain : List Interceptor} (hchain : ∀ i ∈ chain, i.BuiltIn)
    (hr : ∀ i ∈ chain, i.added r = []) : applyAll chain r = r := by
  induction chain with
  | nil => rfl
  | cons i chain ih =>
    rw [List.forall_mem_cons] at hchain hr
    have hi : i.apply r = r := by rw [apply_eq hchain.1, hr.1, withLines_nil]
    show applyAll chain (i.apply r) = r
    rw [hi, ih hchain.2 hr.2]

/-- No interceptor of a chain that sends no credentials has anything to add to what the whole chain
made of a request. -/
theorem added_applyAll {chain : List Interceptor} (hchain : ∀ i ∈ chain, i.BuiltIn)
    (hg : ∀ i ∈ chain, i.granted? = none) (r : Request) :
    ∀ i ∈ chain, i.added (applyAll chain r) = [] := by
  induction chain generalizing r with
  | nil => exact fun i hi => (List.not_mem_nil hi).elim
  | cons i chain ih =>
    rw [List.forall_mem_cons] at hchain hg ⊢
    -- what follows in the chain leaves it with nothing to add
    exact ⟨added_mono hchain.1 hg.1 (extends_applyAll hchain.2 (i.apply r))
      (added_apply hchain.1 hg.1 r), ih hchain.2 hg.2 (i.apply r)⟩

/-! ## Chains -/

/-- **Interceptors only extend a request.** For every chain of interceptors that come with the
program, what becomes of a request is the request with more headers: endpoint, method, body and
expected type are left as they are, the values of every name that is there come first and unchanged,
the names that are there come first in their order, and of them only that of credentials gains
values, one for each interceptor in the chain whose credentials are neither blank nor illegal. An
interceptor whose credentials are blank or illegal does nothing at all. And a chain without other
credentials does nothing more when it is applied again. -/
theorem chains_only_extend {chain : List Interceptor} (hchain : ∀ i ∈ chain, i.BuiltIn)
    (r : Request) :
    Extends (chain.filterMap granted?) r (applyAll chain r) ∧
      (∀ a : Authentication, a.granted? = none → ∀ r, (credentials a).apply r = r) ∧
      ((∀ a, credentials a ∈ chain → a.granted? = none) →
        applyAll chain (applyAll chain r) = applyAll chain r) := by
  refine ⟨extends_applyAll hchain r, fun a ha r => ?_, fun hnone => ?_⟩
  · rw [apply_credentials, added_of_refused ha, withLines_nil]
  · have hg : ∀ i ∈ chain, i.granted? = none := by
      intro i hi
      cases i with
      | credentials a => exact hnone a hi
      | defaults | accept | change => rfl
    exact applyAll_of_settled hchain (added_applyAll hchain hg r)

/-- Credentials that are sent, illegal and blank ones, defaults with two values under one name, and
what can be read. The request has credentials and a name of the defaults already, and keeps both. -/
theorem chains_only_extend_of_team :
    let lines (ls : List (String × String)) : Headers := ⟨ls.map fun l => ⟨l.1, utf8 l.2⟩⟩
    let quiet : List Interceptor := [.defaults (lines [("x-team", "core"), ("x-tag", "a"),
      ("x-tag", "b")]), .accept ⟨[.text]⟩]
    let chain := quiet ++ [.credentials (.bearer "tok"), .credentials (.fixed (some "a\nb")),
      .credentials (.fixed (some " ")), .credentials (.fixed (some "Key k"))]
    let r := (Request.plain ⟨"http", some ⟨"", none, .name "api.example", none⟩, "/me", none, none⟩
      "GET" .string).withHeaders (lines [("authorization", "own"), ("x-team", "edge")])
    (∀ i ∈ chain, i.BuiltIn) ∧
      (applyAll chain r).headers.valuesOf "authorization" =
        [utf8 "own", utf8 "Bearer tok", utf8 "Key k"] ∧
      (applyAll chain r).headers.valuesOf "x-team" = [utf8 "edge"] ∧
      (applyAll chain r).expected = r.expected ∧
      applyAll quiet (applyAll quiet r) = applyAll quiet r := by
  intro lines quiet chain r
  have hlowered : (lines [("x-team", "core"), ("x-tag", "a"), ("x-tag", "b")]).Lowered := by
    intro l hl
    simp only [lines, List.map_cons, List.map_nil, List.mem_cons, List.not_mem_nil, or_false] at hl
    rcases hl with rfl | rfl | rfl <;> decide
  have hquiet : ∀ i ∈ quiet, i.BuiltIn := by
    simp only [quiet, List.forall_mem_cons]
    exact ⟨.defaults hlowered, .accept _, fun i hi => (List.not_mem_nil hi).elim⟩
  have hchain : ∀ i ∈ chain, i.BuiltIn := by
    intro i hi
    rcases List.mem_append.mp hi with hi | hi
    · exact hquiet i hi
    · simp only [List.mem_cons, List.not_mem_nil, or_false] at hi
      rcases hi with rfl | rfl | rfl | rfl <;> exact .credentials _
  have hbearer : (Authentication.bearer "tok").granted? = some (utf8 "Bearer tok") := by decide
  have hillegal : (Authentication.fixed (some "a\nb")).granted? = none := by decide
  have hblank : (Authentication.fixed (some " ")).granted? = none := by decide
  have hkey : (Authentication.fixed (some "Key k")).granted? = some (utf8 "Key k") := by decide
  have hgranted : chain.filterMap granted? = [utf8 "Bearer tok", utf8 "Key k"] := by
    simp [chain, quiet, List.filterMap_cons, granted?, hbearer, hillegal, hblank, hkey]
  have hnames : r.headers.names = ["authorization", "x-team"] := by rfl
  have hown : r.headers.valuesOf authorizationName = [utf8 "own"] := by rfl
  have hteam : r.headers.valuesOf "x-team" = [utf8 "edge"] := by rfl
  obtain ⟨hextends, -⟩ := chains_only_extend hchain r
  refine ⟨hchain, ?_, ?_, hextends.expected, (chains_only_extend hquiet r).2.2 fun a ha => ?_⟩
  · have hvalues := hextends.credentials (by rw [hnames]; decide)
    rw [hgranted, hown] at hvalues
    exact hvalues
  · rw [← hteam]
    exact hextends.kept "x-team" (by rw [hnames]; decide) (by decide)
  · simp [quiet] at ha

end Interceptor
end Endpoint
