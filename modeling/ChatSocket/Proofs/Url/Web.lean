import ChatSocket.Proofs.Url.Tail

/-!
# URLs of the web

`IsWeb` is what can be relied on in a URL of the web: it has a host, no port that its scheme
implies, and no `#` in its query.  Every one that was read is such a URL (`isWeb_of_parse`), and
such a URL can be given another scheme of the web with the same port (`setScheme?_of_isWeb`).
-/

set_option autoImplicit false

namespace ChatSocket.Url

structure IsWeb (url : Url) : Prop where
  hosted : url.hasHost = true
  ported : ∀ authority port, url.authority = some authority → authority.port = some port →
    defaultPort? url.scheme ≠ some port.toNat
  unhashed : ∀ query, url.query = some query → '#' ∉ query

/-! ## What readers guarantee -/

theorem Host.named_of_bracketed (text : List Char) (host : Host)
    (read : Host.bracketed text = .ok host) : host ≠ .name [] := by
  unfold Host.bracketed at read
  split at read
  case h_1 =>
    cases read
    intro same
    cases same
  case h_2 => cases read

theorem Host.named_of_ofDomain (text : List Char) (host : Host)
    (read : Host.ofDomain text = .ok host) : host ≠ .name [] := by
  unfold Host.ofDomain at read
  split at read
  case h_1 => exact Host.named_of_bracketed _ host read
  case h_2 =>
    dsimp only at read
    split at read
    case isTrue => cases read
    case isFalse =>
      split at read
      case isTrue => cases read
      case isFalse filled =>
        split at read
        case isTrue =>
          split at read
          case h_1 =>
            cases read
            intro same
            cases same
          case h_2 => cases read
        case isFalse =>
          cases read
          intro same
          exact filled (List.isEmpty_iff.mpr (Host.name.inj same))

theorem named_of_readHost (text rest : List Char) (host : Host)
    (read : readHost .web text = .ok (host, rest)) : host ≠ .name [] := by
  unfold readHost at read
  dsimp only at read
  split at read
  case isTrue => cases read
  case isFalse =>
    obtain ⟨found, domain, same⟩ := (bind_ok_iff _ _ _).mp read
    cases same
    exact Host.named_of_ofDomain _ _ domain

/-- A port that is kept is not the one that the scheme implies. -/
theorem ported_of_readPort (scheme : String) (text rest : List Char) (port : UInt16)
    (read : readPort scheme text = .ok (some port, rest)) :
    defaultPort? scheme ≠ some port.toNat := by
  unfold readPort at read
  dsimp only at read
  split at read
  case isTrue => cases read
  case isFalse small =>
    split at read
    case isTrue => cases read
    case isFalse =>
      split at read
      case isTrue => cases read
      case isFalse kept =>
        cases read
        rw [UInt16.toNat_ofNat', Nat.mod_eq_of_lt (by omega)]
        intro implied
        rw [implied] at kept
        simp at kept

theorem parts_of_readAuthority (scheme : String) (text rest : List Char) (authority : Authority)
    (read : readAuthority scheme .web text = .ok (authority, rest)) :
    authority.host ≠ .name [] ∧
      ∀ port, authority.port = some port → defaultPort? scheme ≠ some port.toNat := by
  obtain ⟨⟨credentials, afterCredentials⟩, -, read⟩ := (bind_ok_iff _ _ _).mp read
  obtain ⟨⟨host, afterHost⟩, hosted, read⟩ := (bind_ok_iff _ _ _).mp read
  have named := named_of_readHost _ _ _ hosted
  dsimp only at read
  split at read
  case isTrue => cases read
  case isFalse =>
    split at read
    case h_1 =>
      obtain ⟨⟨port, afterPort⟩, ported, same⟩ := (bind_ok_iff _ _ _).mp read
      cases same
      refine ⟨named, ?_⟩
      rintro kept rfl
      exact ported_of_readPort _ _ _ _ ported
    case h_2 =>
      cases read
      exact ⟨named, nofun⟩

/-! ## URLs that were read -/

theorem isWeb_of_parseWeb (scheme : String) (rest : List Char) (url : Url)
    (read : parseWeb scheme rest = .ok url) : IsWeb url := by
  have assembled := assembled_of_web scheme rest url read
  obtain ⟨⟨authority, path⟩, known, same⟩ := (bind_ok_iff _ _ _).mp read
  obtain ⟨named, ported⟩ := parts_of_readAuthority _ _ _ _ known
  cases same
  refine ⟨?_, ?_, fun query => unhashed_of_assembled scheme _ query assembled⟩
  · simpa [hasHost, assemble] using named
  · rintro _ port ⟨⟩ held
    exact ported port held

/-- Only the schemes of the web are read as such. -/
theorem isWeb_of_parse (text : String) (url : Url) (read : parse text = .ok url)
    (web : Kind.ofScheme url.scheme = .web) : IsWeb url := by
  rw [parse] at read
  split at read
  case h_1 => cases read
  case h_2 scheme rest _ =>
    split at read
    case h_1 => exact isWeb_of_parseWeb scheme rest url read
    case h_2 =>
      rw [scheme_of_assembled _ url (assembled_of_file _ url read)] at web
      cases web
    case h_3 other =>
      rw [scheme_of_assembled _ url (assembled_of_other scheme rest url read), other] at web
      cases web

/-! ## Another scheme of the web -/

/-- A scheme that implies the same port takes the place of a URL's own, and nothing else
changes. -/
theorem setScheme?_of_isWeb (scheme : String) (url : Url) (isWeb : IsWeb url)
    (web : Kind.ofScheme url.scheme = .web) (webToo : Kind.ofScheme scheme = .web)
    (lower : String.ofList (scheme.toList.map Char.toLower) = scheme)
    (named : (scheme.toList.head?.any Char.isAlpha && scheme.toList.all isSchemeChar) = true)
    (implied : defaultPort? scheme = defaultPort? url.scheme) :
    url.setScheme? scheme = some { url with scheme } := by
  have kept : url.authority.map (Authority.under scheme) = url.authority := by
    cases known : url.authority with
    | none => rfl
    | some authority =>
        have port : authority.port.filter (some ·.toNat != defaultPort? scheme) =
            authority.port := by
          cases held : authority.port with
          | none => rfl
          | some port =>
              have other := isWeb.ported authority port known held
              rw [← implied] at other
              simpa [Option.filter] using Ne.symm other
        simp [Authority.under, port]
  simp [setScheme?, lower, named, web, webToo, isWeb.hosted, kept, Kind.isSpecial]

end ChatSocket.Url
