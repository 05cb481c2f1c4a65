import SessionHub.Proofs.Url.Names

/-!
# Paths on a server

The address of a server is read as a URL that paths can be put on: it has a host, a path
with segments, and a scheme with rules for hosts that is not the one of files. A reference
that begins with one slash keeps all of the URL but its path and what comes after.
-/

namespace SessionHub
namespace Url

open Text

/-- A URL that paths can be put on. -/
structure IsServerBase (base : Url) : Prop where
  special : isSpecial base.scheme = true
  remote : base.scheme ≠ fileScheme
  hosted : base.hasHost = true
  segmented : ∃ names, base.path = .segments names

/-! ## Hosts -/

theorem readBracketed?_ne_nil
    {text host : List Char}
    (read : readBracketed? text = some host) :
    host ≠ [] := by
  rw [readBracketed?] at read
  split at read
  · obtain ⟨numbers, _, rfl⟩ := Option.map_eq_some_iff.1 read
    exact List.cons_ne_nil _ _
  · cases read

theorem readHost?_ne_nil
    {text host : List Char}
    (read : readHost? text = some host) :
    host ≠ [] := by
  rw [readHost?.eq_def] at read
  split at read
  · exact readBracketed?_ne_nil read
  · obtain ⟨domain, _, read⟩ := Option.bind_eq_some_iff.1 read
    split at read
    · cases read
    · split at read
      · cases read
      · next nonempty =>
        split at read
        · obtain ⟨number, _, rfl⟩ := Option.map_eq_some_iff.1 read
          simp [ipv4Text]
        · cases read
          simpa using nonempty

theorem readHostAndPort?_ne_nil
    {scheme text : List Char}
    {found : List Char × Option Nat × List Char}
    (special : isSpecial scheme = true)
    (read : readHostAndPort? scheme text = some found) :
    found.1 ≠ [] := by
  simp only [readHostAndPort?, special, if_true, Option.bind_eq_bind, Option.bind_none] at read
  split at read
  · cases read
  · obtain ⟨host, isHost, read⟩ := Option.bind_eq_some_iff.1 read
    split at read
    · obtain ⟨_, _, read⟩ := Option.bind_eq_some_iff.1 read
      cases read
      exact readHost?_ne_nil isHost
    · cases read
      exact readHost?_ne_nil isHost

theorem readAuthority?_ne_nil
    {scheme text : List Char}
    {found : Authority × List Char}
    (special : isSpecial scheme = true)
    (read : readAuthority? scheme text = some found) :
    found.1.host ≠ [] := by
  simp only [readAuthority?, Option.bind_eq_bind, Option.bind_none, Option.pure_def] at read
  split at read
  · obtain ⟨place, isPlace, read⟩ := Option.bind_eq_some_iff.1 read
    cases read
    exact readHostAndPort?_ne_nil special isPlace
  · split at read
    · cases read
    · obtain ⟨place, isPlace, read⟩ := Option.bind_eq_some_iff.1 read
      split at read
      · cases read
      · cases read
        exact readHostAndPort?_ne_nil special isPlace

/-! ## The address of a server -/

theorem isServerBase_finish
    {scheme : List Char}
    {authority : Authority}
    (special : isSpecial scheme = true)
    (remote : scheme ≠ fileScheme)
    (hosted : authority.host ≠ [])
    (start : List (List Char))
    (text : List Char) :
    IsServerBase (finish scheme (some authority) start text) where
  special := special
  remote := remote
  hosted := by simpa [hasHost, finish] using hosted
  segmented := ⟨_, rfl⟩

theorem isServerBase_of_readWithAuthority?
    {scheme text : List Char}
    {url : Url}
    (special : isSpecial scheme = true)
    (remote : scheme ≠ fileScheme)
    (read : readWithAuthority? scheme text = some url) :
    IsServerBase url := by
  simp only [readWithAuthority?, Option.bind_eq_bind, special, Option.pure_def, if_true,
    not_true_eq_false, false_and, if_false] at read
  obtain ⟨⟨authority, rest⟩, isAuthority, read⟩ := Option.bind_eq_some_iff.1 read
  have hosted := readAuthority?_ne_nil special isAuthority
  split at read
  · cases read
    exact isServerBase_finish special remote hosted _ _
  · split at read <;> cases read <;> exact isServerBase_finish special remote hosted _ _

theorem isServerBase_of_readWithScheme?
    {scheme text : List Char}
    {url : Url}
    (special : isSpecial scheme = true)
    (remote : scheme ≠ fileScheme)
    (read : readWithScheme? none scheme text = some url) :
    IsServerBase url := by
  simp only [readWithScheme?, if_neg remote, special, if_true, Option.filter_none] at read
  exact isServerBase_of_readWithAuthority? special remote read

/-- What is read after the scheme of web pages is a server. -/
theorem isServerBase_of_parse?
    {address : List Char}
    {base : Url}
    (read : parse? ("http://".toList ++ address) = some base) :
    IsServerBase base := by
  have cleaned : clean ("http://".toList ++ address) = "http://".toList ++ cleanAfter address := by
    change clean ('h' :: 't' :: 't' :: 'p' :: ':' :: '/' :: '/' :: address) = _
    rw [clean_cons (by decide)]
    repeat rw [cleanAfter_cons (by decide)]
    rfl
  have scheme : readScheme? ("http://".toList ++ cleanAfter address) =
      some ("http".toList, "//".toList ++ cleanAfter address) := rfl
  rw [parse?, cleaned, scheme, Option.bind_eq_bind, Option.bind_some] at read
  exact isServerBase_of_readWithScheme? rfl (by decide) read

/-! ## Schemes of addresses -/

theorem scheme_of_readWithAuthority?
    {scheme text : List Char}
    {url : Url}
    (read : readWithAuthority? scheme text = some url) :
    url.scheme = scheme := by
  simp only [readWithAuthority?, Option.bind_eq_bind, Option.pure_def] at read
  obtain ⟨_, _, read⟩ := Option.bind_eq_some_iff.1 read
  split at read
  · cases read
    split <;> rfl
  · split at read
    · cases read
      rfl
    · split at read <;> cases read <;> rfl

theorem scheme_of_readFileWithHost?
    {text : List Char}
    {url : Url}
    (read : readFileWithHost? text = some url) :
    url.scheme = fileScheme := by
  simp only [readFileWithHost?, Option.bind_eq_bind, Option.pure_def] at read
  split at read
  · cases read
    rfl
  · obtain ⟨host, _, read⟩ := Option.bind_eq_some_iff.1 read
    cases read
    rfl

theorem scheme_of_readFile?
    {text : List Char}
    {url : Url}
    (read : readFile? none text = some url) :
    url.scheme = fileScheme := by
  have beside : ∀ rest, readFile?.readBeside none rest = some url → url.scheme = fileScheme := by
    intro rest isRead
    cases isRead
    rfl
  unfold readFile? at read
  split at read
  · split at read
    · exact scheme_of_readFileWithHost? read
    · split at read
      · cases read
        rfl
      · exact beside _ read
  · split at read
    · cases read
      rfl
    · exact beside _ read
  · exact beside _ read

theorem scheme_of_readFree?
    {scheme text : List Char}
    {url : Url}
    (read : readFree? scheme text = some url) :
    url.scheme = scheme := by
  unfold readFree? at read
  split at read
  · exact scheme_of_readWithAuthority? read
  · cases read
    rfl
  · cases read
    rfl

/-- A URL that is read keeps the scheme that its text starts with. -/
theorem scheme_of_readWithScheme?
    {scheme text : List Char}
    {url : Url}
    (read : readWithScheme? none scheme text = some url) :
    url.scheme = scheme := by
  simp only [readWithScheme?, Option.filter_none] at read
  split at read
  · next isFile =>
    rw [isFile]
    exact scheme_of_readFile? read
  · split at read
    · exact scheme_of_readWithAuthority? read
    · exact scheme_of_readFree? read

/-- An address is one of a server if its scheme is one with rules for hosts, and not the one of
files. -/
theorem isServerBase_of_scheme
    {address : List Char}
    {base : Url}
    (read : parse? address = some base)
    (special : isSpecial base.scheme = true)
    (remote : base.scheme ≠ fileScheme) :
    IsServerBase base := by
  obtain ⟨⟨scheme, rest⟩, _, read⟩ := Option.bind_eq_some_iff.1 read
  rw [scheme_of_readWithScheme? read] at special remote
  exact isServerBase_of_readWithScheme? special remote read

/-! ## Putting a path on a server -/

theorem finish_of_plain
    (scheme : List Char)
    (authority : Option Authority)
    (start : List (List Char))
    {text : List Char}
    (plain : ∀ character ∈ text, endsPath character = false) :
    (finish scheme authority start text).query = none ∧
      (finish scheme authority start text).fragment = none := by
  have noTail : text.dropWhile (¬endsPath ·) = [] := by
    refine List.dropWhile_eq_nil_iff.2 fun character mem => ?_
    rw [plain character mem]
    rfl
  rw [finish, noTail]
  exact ⟨rfl, rfl⟩

theorem clean_path
    {character : Char}
    (counts : isTrimmed character = false)
    (rest : List Char) :
    clean ('/' :: character :: rest) = '/' :: character :: cleanAfter rest := by
  rw [clean_cons (by decide), cleanAfter_cons counts]

namespace IsServerBase

variable {base : Url}

theorem join?_eq_finish
    (isServer : IsServerBase base)
    {character : Char}
    (counts : isTrimmed character = false)
    (notSlash : isSlash true character = false)
    (rest : List Char) :
    base.join? ('/' :: character :: rest) =
      some (finish base.scheme base.authority [] (character :: cleanAfter rest)) := by
  obtain ⟨names, segmented⟩ := isServer.segmented
  have noScheme : readScheme? ('/' :: character :: cleanAfter rest) = none := rfl
  have relative : readRelative? base ('/' :: character :: cleanAfter rest) =
      some (finish base.scheme base.authority [] (character :: cleanAfter rest)) := by
    rw [readRelative?, if_pos (by rfl), if_neg (Bool.eq_false_iff.1 notSlash)]
    · decide
    · decide
    · rintro rfl
      cases notSlash
  rw [join?, clean_path counts, noScheme, segmented]
  simp only [List.head?_cons, if_neg isServer.remote, relative]
  exact if_neg (by decide)

/-- A path that begins with one slash leads to its place on the server. -/
theorem join?_eq
    (isServer : IsServerBase base)
    {character : Char}
    (counts : isTrimmed character = false)
    (notSlash : isSlash true character = false)
    (rest : List Char) :
    ∃ query fragment, base.join? ('/' :: character :: rest) =
      some
        { scheme := base.scheme, authority := base.authority, query, fragment
          path := .segments (place ('/' :: character :: rest)) } := by
  rw [isServer.join?_eq_finish counts notSlash, finish, isServer.special, if_neg isServer.remote,
    place, clean_path counts, List.tail_cons]
  exact ⟨_, _, rfl⟩

/-- A path without marks of a query or a fragment leads to a URL without them. -/
theorem join?_of_plain
    (isServer : IsServerBase base)
    {character : Char}
    (counts : isTrimmed character = false)
    (notSlash : isSlash true character = false)
    {rest : List Char}
    (plain : ∀ other ∈ character :: rest, endsPath other = false) :
    base.join? ('/' :: character :: rest) =
      some
        { scheme := base.scheme, authority := base.authority
          path := .segments (place ('/' :: character :: rest)) } := by
  obtain ⟨query, fragment, joined⟩ := isServer.join?_eq counts notSlash rest
  have kept : ∀ other ∈ character :: cleanAfter rest, endsPath other = false :=
    fun other mem => plain other (((cleanAfter_sublist rest).cons_cons character).subset mem)
  have finished := joined.symm.trans (isServer.join?_eq_finish counts notSlash rest)
  obtain ⟨noQuery, noFragment⟩ := finish_of_plain base.scheme base.authority [] kept
  rw [← Option.some_inj.1 finished] at noQuery noFragment
  cases noQuery
  cases noFragment
  exact joined

end IsServerBase

end Url
end SessionHub
