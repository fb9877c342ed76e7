import BeeSdk.HttpRequest

/-! URLs written out of their parts and taken apart again. Behind a scheme every part
comes back; without one, the parser takes the first `://` further on for the end of a
scheme. -/
namespace BeeSdk.HttpMessage
open TextSearch HttpHeader

/-- The parts of a URL, of which all but the host may be left out. -/
structure UrlParts where
  scheme : Option Text
  host : Text
  port : Option Text
  path : Option Text

namespace UrlParts

structure WellFormed (parts : UrlParts) : Prop where
  scheme : ∀ scheme ∈ parts.scheme, ∀ symbol ∈ scheme, symbol.isAlpha = true
  host : ':' ∉ parts.host ∧ '/' ∉ parts.host
  port : ∀ port ∈ parts.port, port ≠ [] ∧ '/' ∉ port
  path : ∀ path ∈ parts.path, path.head? = some '/'

/-- What stands behind the scheme. -/
def behindScheme (parts : UrlParts) : Text :=
  parts.host ++ ((parts.port.map (':' :: ·)).getD [] ++ parts.path.getD [])

/-- `scheme://host:port/path` without the parts left out. -/
def render (parts : UrlParts) : Text :=
  (parts.scheme.map (· ++ "://".toList)).getD [] ++ parts.behindScheme

def schemeOrDefault (parts : UrlParts) : Text := parts.scheme.getD "http".toList

def defaultPort (parts : UrlParts) : Text :=
  if parts.schemeOrDefault = "https".toList then "443".toList else "80".toList

/-- The parts, with `http`, its port or that of `https`, and the path `/` for those left
out. -/
def meaning (parts : UrlParts) : Text × Text × Text × Text :=
  (parts.schemeOrDefault, parts.host, parts.port.getD parts.defaultPort, parts.path.getD "/".toList)

/-- Behind the scheme host, port and path come back, for each of the four ways to leave
port and path out. -/
theorem parse_behindScheme {parts : UrlParts} (formed : parts.WellFormed) (portStr : Text) :
    HttpRequest.parseBehindScheme portStr parts.behindScheme =
      (parts.host, parts.port.getD portStr, parts.path.getD []) := by
  obtain ⟨scheme, host, port, path⟩ := parts
  obtain ⟨_, ⟨noColon, noSlash⟩, portFormed, pathFormed⟩ := formed
  simp only at noColon noSlash portFormed pathFormed
  simp only [behindScheme]
  cases port with
  | none =>
    cases path with
    | none =>
      have colon := findFirstOf_eq_none_iff.mpr noColon
      have slash := findFirstOf_eq_none_iff.mpr noSlash
      simp [HttpRequest.parseBehindScheme, colon, slash]
    | some path =>
      obtain ⟨rest, rfl⟩ := List.head?_eq_some_iff.mp (pathFormed path rfl)
      have slash := findFirstOf_append rest noSlash
      have colon := findFirstOf_behind ('/' :: rest) noColon
      rw [Option.map_none, Option.getD_none, List.nil_append, Option.getD_some,
        HttpRequest.parseBehindScheme, slash, colon]
      cases findFirstOf ':' ('/' :: rest) with
      | none => simp
      | some posHost =>
        have behind : ¬ posHost + host.length < host.length := by omega
        simp only [Option.map_some, if_neg behind]
        simp
  | some port =>
    obtain ⟨filled, free⟩ := portFormed port rfl
    have colon := fun behind => findFirstOf_append (port ++ behind) noColon
    have noSlash' : '/' ∉ host ++ ':' :: port := by simp [noSlash, free]
    cases path with
    | none =>
      have slash := findFirstOf_eq_none_iff.mpr noSlash'
      simp only [Option.map_some, Option.getD_some, Option.getD_none, List.append_nil]
      rw [HttpRequest.parseBehindScheme, slash, findFirstOf_append port noColon]
      simp
    | some path =>
      obtain ⟨rest, rfl⟩ := List.head?_eq_some_iff.mp (pathFormed path rfl)
      have slash := findFirstOf_append rest noSlash'
      rw [List.append_assoc, List.cons_append] at slash
      have port' := findFirstOf_append rest free
      simp only [Option.map_some, Option.getD_some, List.cons_append]
      rw [HttpRequest.parseBehindScheme, slash, colon ('/' :: rest)]
      simp [port']

private theorem path_or_root {parts : UrlParts} (formed : parts.WellFormed) :
    (if parts.path.getD [] = [] then "/".toList else parts.path.getD []) =
      parts.path.getD "/".toList := by
  cases shape : parts.path with
  | none => rfl
  | some path =>
    have filled : path ≠ [] := by
      intro empty
      have begins := formed.path path shape
      rw [empty] at begins
      cases begins
    rw [Option.getD_some, Option.getD_some, if_neg filled]

/-- A text whose first `://` stands behind its scheme. -/
theorem parseUrl_of_scheme {parts : UrlParts} (formed : parts.WellFormed) {scheme : Text}
    (given : parts.scheme = some scheme) : HttpRequest.parseUrl parts.render = parts.meaning := by
  have noColon : ':' ∉ scheme := fun member =>
    absurd (formed.scheme scheme given ':' member) (by decide)
  have found := find_append parts.behindScheme (free_of_head_absent "//".toList noColon)
  have shape : parts.render = scheme ++ "://".toList ++ parts.behindScheme := by
    rw [render, given]
    rfl
  have behind : (scheme ++ "://".toList ++ parts.behindScheme).drop (scheme.length + 3) =
      parts.behindScheme := by
    rw [← show (scheme ++ "://".toList).length = scheme.length + 3 by simp, List.drop_left]
  have front : (scheme ++ "://".toList ++ parts.behindScheme).take scheme.length = scheme := by
    rw [List.append_assoc, List.take_left]
  have whole : find "://".toList (scheme ++ "://".toList ++ parts.behindScheme) =
    some scheme.length := found
  have default : parts.schemeOrDefault = scheme := by rw [schemeOrDefault, given]; rfl
  rw [shape, HttpRequest.parseUrl, whole]
  simp only [behind, front]
  rw [parse_behindScheme formed, ← default]
  simp only [path_or_root formed]
  rfl

/-- A text without `://`. -/
theorem parseUrl_of_free {parts : UrlParts} (formed : parts.WellFormed)
    (omitted : parts.scheme = none) (free : ¬ "://".toList <:+: parts.render) :
    HttpRequest.parseUrl parts.render = parts.meaning := by
  have shape : parts.render = parts.behindScheme := by
    rw [render, omitted]
    rfl
  have default : parts.schemeOrDefault = "http".toList := by rw [schemeOrDefault, omitted]; rfl
  have missed := find_eq_none_iff.mpr free
  rw [HttpRequest.parseUrl, missed]
  simp only [List.drop_zero, shape]
  rw [parse_behindScheme formed, ← default]
  simp only [path_or_root formed]
  rfl

/-- The host is what stands in front of the first colon or slash. -/
private theorem host_in_front {parts : UrlParts} (formed : parts.WellFormed) :
    parts.behindScheme.takeWhile (fun symbol => symbol ≠ ':' ∧ symbol ≠ '/') = parts.host := by
  have solid : ∀ symbol ∈ parts.host, decide (symbol ≠ ':' ∧ symbol ≠ '/') = true := by
    intro symbol member
    rw [decide_eq_true_eq]
    constructor
    · intro same
      exact formed.host.1 (same ▸ member)
    · intro same
      exact formed.host.2 (same ▸ member)
  rw [behindScheme, List.takeWhile_append_of_pos solid]
  cases port : parts.port with
  | some port => simp
  | none =>
    cases shape : parts.path with
    | none => simp
    | some path =>
      obtain ⟨rest, rfl⟩ := List.head?_eq_some_iff.mp (formed.path path shape)
      simp

/-- A text of a host and what may follow it is not that of `http` and a `://`. -/
private theorem no_http_in_front {parts : UrlParts} (formed : parts.WellFormed) (rest : Text) :
    parts.behindScheme ≠ "http".toList ++ ("://".toList ++ rest) := by
  intro same
  have host := host_in_front formed
  rw [same] at host
  have http : parts.host = "http".toList := host.symm
  rw [behindScheme, http] at same
  have behind := List.append_cancel_left same
  cases shape : parts.port with
  | some port =>
    obtain ⟨filled, free⟩ := formed.port port shape
    obtain ⟨symbol, symbols, rfl⟩ := List.exists_cons_of_ne_nil filled
    rw [shape] at behind
    simp at behind
    exact free (by simp [behind.1])
  | none =>
    rw [shape] at behind
    cases shape' : parts.path with
    | none =>
      rw [shape'] at behind
      simp at behind
    | some path =>
      obtain ⟨symbols, rfl⟩ := List.head?_eq_some_iff.mp (formed.path path shape')
      rw [shape'] at behind
      simp at behind

/-- A text without a scheme that holds `://` is given a scheme other than `http`. -/
theorem scheme_misread {parts : UrlParts} (formed : parts.WellFormed)
    (omitted : parts.scheme = none) (held : "://".toList <:+: parts.render) :
    (HttpRequest.parseUrl parts.render).1 ≠ "http".toList := by
  have shape : parts.render = parts.behindScheme := by
    rw [render, omitted]
    rfl
  cases found : find "://".toList parts.render with
  | none => exact absurd held (find_eq_none_iff.mp found)
  | some posProtocol =>
    rw [HttpRequest.parseUrl, found]
    intro http
    have front : parts.render.take posProtocol = "http".toList := http
    obtain ⟨rest, behind⟩ := prefix_at_find found
    apply no_http_in_front formed rest
    rw [← shape, ← front, behind, List.take_append_drop]

/-- A URL is taken apart into its parts exactly when a scheme is given or no `://` stands
further on. -/
theorem parseUrl_render_iff {parts : UrlParts} (formed : parts.WellFormed) :
    HttpRequest.parseUrl parts.render = parts.meaning ↔
      parts.scheme.isSome ∨ ¬ "://".toList <:+: parts.render := by
  cases given : parts.scheme with
  | some scheme => exact ⟨fun _ => .inl rfl, fun _ => parseUrl_of_scheme formed given⟩
  | none =>
    constructor
    · intro same
      right
      intro held
      apply scheme_misread formed given held
      rw [same, meaning, schemeOrDefault, given]
      rfl
    · rintro (absurd | free)
      · cases absurd
      · exact parseUrl_of_free formed given free

/-- `host:81/a://b` behind `https`. -/
def secured : UrlParts := ⟨some "https".toList, "host".toList, some "81".toList, some "/a://b".toList⟩

private theorem secured_wellFormed : secured.WellFormed := by
  refine ⟨?_, by decide, ?_, ?_⟩
  · rintro _ ⟨⟩
    exact List.all_eq_true.mp (by decide)
  · rintro _ ⟨⟩
    decide
  · rintro _ ⟨⟩
    decide

theorem secured_parsed : HttpRequest.parseUrl "https://host:81/a://b".toList =
    ("https".toList, "host".toList, "81".toList, "/a://b".toList) :=
  (parseUrl_render_iff secured_wellFormed).mpr (.inl rfl)

/-- Without a scheme, a path with a URL in it. -/
theorem path_taken_for_scheme : ¬ ∀ parts : UrlParts, parts.WellFormed →
    HttpRequest.parseUrl parts.render = parts.meaning := by
  intro all
  have formed : UrlParts.WellFormed ⟨none, "a".toList, none, some "/u?x=http://b/".toList⟩ := by
    refine ⟨nofun, by decide, nofun, ?_⟩
    rintro _ ⟨⟩
    decide
  exact absurd (all _ formed) (by decide)

end UrlParts
end BeeSdk.HttpMessage
