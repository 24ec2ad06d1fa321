import Compliance.Http.Client
import Compliance.Proofs.Except
import Compliance.Proofs.Http.Resolving
import Compliance.Proofs.Text.Pieces

/-!
Reading a URL that is made of a scheme, an authority and a path. The scheme of what is read is the
scheme that was written, so a URL that requests can be sent by is one of a web scheme; its path and
what follows it are then read from what stands behind the authority, whatever that is.
-/

namespace Compliance.Http.Url

/-! ### Parts that are not touched -/

@[simp] theorem setTail_scheme (u : Url) (cs : List Char) : (u.setTail cs).scheme = u.scheme := rfl

@[simp] theorem setTail_path (u : Url) (cs : List Char) : (u.setTail cs).path = u.path := rfl

@[simp] theorem withSegments_scheme (u : Url) (names : List String) :
    (u.withSegments names).scheme = u.scheme := by
  rw [withSegments]
  split <;> rfl

@[simp] theorem setPath_scheme (u : Url) (above : List String) (cs : List Char) :
    (u.setPath above cs).scheme = u.scheme := by
  rw [setPath, setTail_scheme, withSegments_scheme]

@[simp] theorem setWholePath_scheme (u : Url) (cs : List Char) :
    (u.setWholePath cs).scheme = u.scheme := by
  unfold setWholePath
  split
  · split
    · exact setPath_scheme _ _ _
    · split
      · rfl
      · exact setPath_scheme _ _ _
  · split
    · rfl
    · exact setPath_scheme _ _ _

@[simp] theorem withoutUser_path (u : Url) : u.withoutUser.path = u.path := by
  unfold withoutUser
  dsimp only
  split <;> rfl

@[simp] theorem withoutUser_query (u : Url) : u.withoutUser.query = u.query := by
  unfold withoutUser
  dsimp only
  split <;> rfl

@[simp] theorem withoutUser_fragment (u : Url) : u.withoutUser.fragment = u.fragment := by
  unfold withoutUser
  dsimp only
  split <;> rfl

@[simp] theorem withoutUser_scheme (u : Url) : u.withoutUser.scheme = u.scheme := by
  unfold withoutUser
  dsimp only
  split <;> rfl

@[simp] theorem withoutUser_host (u : Url) : u.withoutUser.host = u.host := by
  unfold withoutUser
  dsimp only
  split <;> rfl

@[simp] theorem withoutUser_port (u : Url) : u.withoutUser.port = u.port := by
  unfold withoutUser
  dsimp only
  split <;> rfl

/-! ### Schemes -/

variable {u : Url} {scheme : String} {cs : List Char}

theorem scheme_of_ofAuthority (h : ofAuthority scheme cs = .ok u) : u.scheme = scheme := by
  unfold ofAuthority at h
  obtain ⟨-, h⟩ := check_eq_ok.1 h
  obtain ⟨host, -, h⟩ := bind_eq_ok.1 h
  obtain ⟨port, -, h⟩ := bind_eq_ok.1 h
  obtain ⟨-, h⟩ := check_eq_ok.1 h
  obtain rfl := pure_eq_ok.1 h
  rw [setWholePath_scheme]

theorem scheme_of_ofFile (h : ofFile cs = .ok u) : u.scheme = "file" := by
  unfold ofFile at h
  dsimp only at h
  split at h
  · split at h
    · split at h
      · cases h
        exact setPath_scheme _ _ _
      · obtain ⟨host, -, rfl⟩ := map_eq_ok.1 h
        split
        · exact setPath_scheme _ _ _
        · exact setWholePath_scheme _ _
    · cases h
      exact setPath_scheme _ _ _
  · cases h
    exact setPath_scheme _ _ _
  · cases h
    exact setPath_scheme _ _ _

theorem scheme_of_ofOther (h : ofOther scheme cs = .ok u) : u.scheme = scheme := by
  unfold ofOther at h
  split at h
  · exact scheme_of_ofAuthority h
  · cases h
    exact setPath_scheme _ _ _
  · cases h
    rfl

theorem kindOf_eq_file (h : kindOf scheme = .file) : scheme = "file" := by
  unfold kindOf at h
  split at h
  · rename_i heq
    exact heq
  · split at h <;> cases h

/-- What is read behind a scheme has that scheme. -/
theorem scheme_of_ofScheme (h : ofScheme scheme cs = .ok u) : u.scheme = scheme := by
  unfold ofScheme at h
  split at h
  · exact scheme_of_ofAuthority h
  · rename_i hkind
    rw [scheme_of_ofFile h, kindOf_eq_file hkind]
  · exact scheme_of_ofOther h

theorem kindOf_of_isHttp (h : u.isHttp = true) : kindOf u.scheme = .web := by
  rw [isHttp, Bool.or_eq_true, beq_iff_eq, beq_iff_eq] at h
  rcases h with h | h <;> rw [h] <;> decide

/-! ### The parts of a text -/

def unbroken (cs : List Char) : List Char := cs.filter fun c => c ≠ '\t' ∧ c ≠ '\n' ∧ c ≠ '\r'

theorem ne_break_of_not_control {c : Char} (h : isControlOrSpace c = false) :
    c ≠ '\t' ∧ c ≠ '\n' ∧ c ≠ '\r' := by
  refine ⟨?_, ?_, ?_⟩ <;> rintro rfl <;> cases h

theorem unbroken_cons {c : Char} (h : isControlOrSpace c = false) (cs : List Char) :
    unbroken (c :: cs) = c :: unbroken cs :=
  List.filter_cons_of_pos (decide_eq_true (ne_break_of_not_control h))

theorem unbroken_append (cs ds : List Char) : unbroken (cs ++ ds) = unbroken cs ++ unbroken ds :=
  List.filter_append cs ds

theorem unbroken_of_not_control (h : ∀ c ∈ cs, isControlOrSpace c = false) : unbroken cs = cs :=
  List.filter_eq_self.2 fun c hc => decide_eq_true (ne_break_of_not_control (h c hc))

theorem unbroken_sublist (cs : List Char) : (unbroken cs).Sublist cs := List.filter_sublist

theorem length_bytesOf_unbroken_le (cs : List Char) :
    (Text.bytesOf (unbroken cs)).length ≤ (Text.bytesOf cs).length := by
  have hbytes := length_bytesOf_of_sublist (unbroken_sublist cs)
  have hlength := (unbroken_sublist cs).length_le
  omega

/-- A text that is shorter by no byte has no breaks. -/
theorem unbroken_eq_self (h : (Text.bytesOf cs).length ≤ (Text.bytesOf (unbroken cs)).length) :
    unbroken cs = cs := by
  have hbytes := length_bytesOf_of_sublist (unbroken_sublist cs)
  exact (unbroken_sublist cs).eq_of_length_le (by omega)

theorem ne_break_of_mem_unbroken {c : Char} (h : c ∈ unbroken cs) :
    c ≠ '\t' ∧ c ≠ '\n' ∧ c ≠ '\r' :=
  of_decide_eq_true (List.mem_filter.1 h).2

def EndsVisibly (cs : List Char) : Prop :=
  ∃ front d, cs = front ++ [d] ∧ isControlOrSpace d = false

theorem EndsVisibly.append (h : EndsVisibly cs) (ds : List Char) : EndsVisibly (ds ++ cs) := by
  obtain ⟨front, d, rfl, hd⟩ := h
  exact ⟨ds ++ front, d, (List.append_assoc ds front [d]).symm, hd⟩

theorem endsVisibly_of_not_control (hcs : cs ≠ []) (h : ∀ c ∈ cs, isControlOrSpace c = false) :
    EndsVisibly cs :=
  ⟨cs.dropLast, cs.getLast hcs, (List.dropLast_concat_getLast hcs).symm,
    h _ (List.getLast_mem hcs)⟩

/-- Where a text neither begins nor ends with a blank, only breaks are dropped. -/
theorem clean_eq {c d : Char} {mid : List Char} (hc : isControlOrSpace c = false)
    (hd : isControlOrSpace d = false) :
    clean (String.ofList (c :: (mid ++ [d]))) = unbroken (c :: (mid ++ [d])) := by
  have hfront : (c :: (mid ++ [d])).dropWhile isControlOrSpace = c :: (mid ++ [d]) :=
    List.dropWhile_cons_of_neg (Bool.eq_false_iff.1 hc)
  have hback : (c :: (mid ++ [d])).reverse.dropWhile isControlOrSpace =
      (c :: (mid ++ [d])).reverse := by
    rw [← List.cons_append, List.reverse_append]
    exact List.dropWhile_cons_of_neg (Bool.eq_false_iff.1 hd)
  rw [clean, String.toList_ofList, hfront, hback, List.reverse_reverse, unbroken]

theorem scheme?_eq {name rest : List Char} (hletter : name.head?.any Char.isAlpha = true)
    (hname : ∀ c ∈ name, isSchemeChar c = true) :
    scheme? (name ++ ':' :: rest) = some (String.ofList (name.map Char.toLower), rest) := by
  have hdrop : (name ++ ':' :: rest).dropWhile isSchemeChar = ':' :: rest := by
    rw [List.dropWhile_append_of_pos hname]
    rfl
  have htake : (name ++ ':' :: rest).takeWhile isSchemeChar = name := by
    rw [List.takeWhile_append_of_pos hname]
    exact List.append_nil name
  have hhead : (name ++ ':' :: rest).head?.any Char.isAlpha = true := by
    cases name with
    | nil => cases hletter
    | cons c cs => exact hletter
  rw [scheme?, hdrop]
  simp only [hhead, htake, if_true]

/-! ### The path below an authority -/

def isAuthorityChar (c : Char) : Bool :=
  !isControlOrSpace c && !isSlash .web c && !isTail c

theorem not_end_of_isAuthorityChar {c : Char} (h : isAuthorityChar c = true) :
    isSlash .web c = false ∧ isTail c = false := by
  simp only [isAuthorityChar, Bool.and_eq_true, Bool.not_eq_true'] at h
  exact ⟨h.1.2, h.2⟩

theorem not_control_of_isAuthorityChar {c : Char} (h : isAuthorityChar c = true) :
    isControlOrSpace c = false := by
  simp only [isAuthorityChar, Bool.and_eq_true, Bool.not_eq_true'] at h
  exact h.1.1

theorem mem_splitUser {c : Char} (h : c ∈ (splitUser cs).2) : c ∈ cs := by
  unfold splitUser at h
  split at h
  · exact List.mem_reverse.1 ((List.takeWhile_sublist _).mem (List.mem_reverse.1 h))
  · exact h

theorem setWholePath_slash {v : Url} (hkind : kindOf v.scheme = .web) (tail : List Char) :
    v.setWholePath ('/' :: tail) = v.setPath [] tail := by
  rw [setWholePath, hkind]
  rfl

/-- What is read from a scheme and an authority. -/
def server (scheme : String) (authority : List Char) : Except UrlFault Url := do
  let (user, place) := splitUser authority
  if user = some [] ∧ place = [] then throw .emptyHost
  let (name, password) := userAndPassword (user.getD [])
  let part := hostPart false place
  let behind := place.drop part.length
  let h ← hostOf (kindOf scheme) part (behind ≠ [])
  let p ← portOf scheme ((behind.drop 1).takeWhile (· ≠ '\\'))
  if h = .name "" ∧ (name ≠ "" ∨ password ≠ none) then throw .emptyHost
  return Url.mk scheme name password h p (.segments []) none none

theorem scheme_of_server {authority : List Char} (h : server scheme authority = .ok u) :
    u.scheme = scheme := by
  unfold server at h
  obtain ⟨-, h⟩ := check_eq_ok.1 h
  obtain ⟨host, -, h⟩ := bind_eq_ok.1 h
  obtain ⟨port, -, h⟩ := bind_eq_ok.1 h
  obtain ⟨-, h⟩ := check_eq_ok.1 h
  obtain rfl := pure_eq_ok.1 h
  rfl

/-- Behind an authority the path is read from the slash on. -/
theorem ofAuthority_slash {authority : List Char} (hkind : kindOf scheme = .web)
    (hauthority : ∀ c ∈ authority, isAuthorityChar c = true) (tail : List Char) :
    ofAuthority scheme (authority ++ '/' :: tail) =
      (server scheme authority).map (·.setPath [] tail) := by
  have hinside : ∀ c ∈ authority, (!(isSlash .web c || isTail c)) = true := fun c hc => by
    obtain ⟨hslash, htail⟩ := not_end_of_isAuthorityChar (hauthority c hc)
    rw [hslash, htail]
    rfl
  have hbackslash : ∀ c ∈ authority, c ≠ '\\' := by
    rintro c hc rfl
    exact absurd (hauthority _ hc) (by decide)
  have htake : (authority ++ '/' :: tail).takeWhile (fun c => !(isSlash .web c || isTail c)) =
      authority := by
    rw [List.takeWhile_append_of_pos hinside]
    exact List.append_nil authority
  have hdrop : (authority ++ '/' :: tail).dropWhile (fun c => !(isSlash .web c || isTail c)) =
      '/' :: tail := by
    rw [List.dropWhile_append_of_pos hinside]
    rfl
  -- Nothing of the authority is left for the path, since there is no backslash in it.
  have hrest : ∀ n, ((((splitUser authority).2.drop n).drop 1).dropWhile (· ≠ '\\')) = [] := by
    intro n
    refine List.dropWhile_eq_nil_iff.2 fun c hc => decide_eq_true (hbackslash c (mem_splitUser ?_))
    exact List.mem_of_mem_drop (List.mem_of_mem_drop hc)
  have hpath : ∀ v : Url, v.scheme = scheme → v.setWholePath ('/' :: tail) = v.setPath [] tail :=
    fun v hv => setWholePath_slash (by rw [hv, hkind]) tail
  unfold ofAuthority server
  rw [hkind]
  simp only [htake, hdrop, hrest, List.nil_append, ne_eq, reduceCtorEq, not_false_eq_true,
    and_true]
  generalize hostOf .web _ _ = host
  generalize portOf scheme _ = port
  -- The same checks are made in the same order on both sides.
  split
  · rfl
  · cases host with
    | error e => rfl
    | ok h =>
      cases port with
      | error e => rfl
      | ok n =>
        simp only [bind, Except.bind]
        split
        · rfl
        · exact congrArg Except.ok (hpath _ rfl)

theorem not_control_of_isSchemeChar {c : Char} (h : isSchemeChar c = true) :
    isControlOrSpace c = false := by
  have hnone : ∀ n < 0x21, isSchemeChar (Char.ofNat n) = false := by decide
  refine decide_eq_false fun hle => ?_
  rw [of_forall_ofNat (isSchemeChar · = false) hnone (Nat.lt_succ_of_le hle)] at h
  cases h

/-- Nothing but tabs and line breaks is dropped from a text of a scheme, an authority and a path. -/
theorem clean_slash {name authority tail : List Char}
    (hletter : name.head?.any Char.isAlpha = true) (hname : ∀ c ∈ name, isSchemeChar c = true)
    (hauthority : ∀ c ∈ authority, isAuthorityChar c = true)
    (hend : EndsVisibly ('/' :: tail)) :
    clean (String.ofList (name ++ ':' :: '/' :: '/' :: (authority ++ '/' :: tail))) =
      name ++ ':' :: '/' :: '/' :: (authority ++ '/' :: unbroken tail) := by
  obtain ⟨c, cs, rfl⟩ : ∃ c cs, name = c :: cs := by
    cases name with
    | nil => cases hletter
    | cons c cs => exact ⟨c, cs, rfl⟩
  have hscheme : unbroken (c :: cs) = c :: cs :=
    unbroken_of_not_control fun x hx => not_control_of_isSchemeChar (hname x hx)
  have hkept : unbroken authority = authority :=
    unbroken_of_not_control fun x hx => not_control_of_isAuthorityChar (hauthority x hx)
  obtain ⟨front, d, htail, hd⟩ := hend
  have hclean : clean (String.ofList
      (c :: ((cs ++ ':' :: '/' :: '/' :: (authority ++ front)) ++ [d]))) = _ :=
    clean_eq (not_control_of_isSchemeChar (hname c List.mem_cons_self)) hd
  simp only [List.append_assoc, List.cons_append] at hclean ⊢
  rw [htail, hclean, ← htail, ← List.cons_append, unbroken_append, hscheme,
    unbroken_cons (by decide), unbroken_cons (by decide), unbroken_cons (by decide),
    unbroken_append, hkept, unbroken_cons (by decide)]
  rfl

theorem scheme_of_parse {name authority tail : List Char}
    (hletter : name.head?.any Char.isAlpha = true) (hname : ∀ c ∈ name, isSchemeChar c = true)
    (hauthority : ∀ c ∈ authority, isAuthorityChar c = true)
    (hend : EndsVisibly ('/' :: tail))
    (h : parse (String.ofList (name ++ ':' :: '/' :: '/' :: (authority ++ '/' :: tail))) =
      .ok u) :
    u.scheme = String.ofList (name.map Char.toLower) := by
  rw [parse, clean_slash hletter hname hauthority hend, scheme?_eq hletter hname] at h
  exact scheme_of_ofScheme h

/-- In a text of a scheme, an authority and a path the path begins at a slash, and tabs and line
breaks in it do not count. -/
theorem parse_slash {name authority tail : List Char}
    (hkind : kindOf (String.ofList (name.map Char.toLower)) = .web)
    (hletter : name.head?.any Char.isAlpha = true) (hname : ∀ c ∈ name, isSchemeChar c = true)
    (htold : authority ≠ []) (hauthority : ∀ c ∈ authority, isAuthorityChar c = true)
    (hend : EndsVisibly ('/' :: tail)) :
    parse (String.ofList (name ++ ':' :: '/' :: '/' :: (authority ++ '/' :: tail))) =
      (server (String.ofList (name.map Char.toLower)) authority).map
        (·.setPath [] (unbroken tail)) := by
  rw [parse, clean_slash hletter hname hauthority hend, scheme?_eq hletter hname]
  dsimp only
  rw [ofScheme, hkind]
  dsimp only
  -- The slashes in front of the authority are dropped, and it begins with none itself.
  obtain ⟨a, as, rfl⟩ := List.exists_cons_of_ne_nil htold
  have hslash : isSlash .web a = false :=
    (not_end_of_isAuthorityChar (hauthority a List.mem_cons_self)).1
  have hdrop : ('/' :: '/' :: (a :: as ++ '/' :: unbroken tail)).dropWhile (isSlash .web) =
      a :: as ++ '/' :: unbroken tail := by
    rw [List.dropWhile_cons_of_pos (by decide), List.dropWhile_cons_of_pos (by decide)]
    exact List.dropWhile_cons_of_neg (Bool.eq_false_iff.1 hslash)
  rw [hdrop, ofAuthority_slash hkind hauthority]

/-! ### The path and what follows it -/

variable {v : Url}

theorem setPath_path (hkind : kindOf v.scheme = .web) (cs : List Char) :
    (v.setPath [] cs).path = .segments
      (resolve .web [] (Text.pieces (isSlash .web) (cs.takeWhile (!isTail ·)))) := by
  rw [setPath, setTail_path, withSegments, hkind]
  rfl

/-- The server is the same whatever the path is. -/
theorem setPath_server (hkind : kindOf v.scheme = .web) (cs : List Char) :
    (v.setPath [] cs).host = v.host ∧ (v.setPath [] cs).port = v.port := by
  rw [setPath, withSegments, if_neg (by rw [hkind]; exact nofun)]
  exact ⟨rfl, rfl⟩

theorem setTail_nil (v : Url) : (v.setTail []).query = none ∧ (v.setTail []).fragment = none :=
  ⟨rfl, rfl⟩

theorem setTail_cons (v : Url) {c : Char} (hc : isTail c = true) (cs : List Char) :
    ¬ ((v.setTail (c :: cs)).query = none ∧ (v.setTail (c :: cs)).fragment = none) := by
  rw [isTail, Bool.or_eq_true, beq_iff_eq, beq_iff_eq] at hc
  rintro ⟨hquery, hfragment⟩
  rcases hc with rfl | rfl
  · cases hquery
  · cases hfragment

/-- Neither a query nor a fragment is read where nothing announces one. -/
theorem setPath_tail (v : Url) (cs : List Char) :
    (v.setPath [] cs).query = none ∧ (v.setPath [] cs).fragment = none ↔
      ∀ c ∈ cs, isTail c = false := by
  have hnil : cs.dropWhile (!isTail ·) = [] ↔ ∀ c ∈ cs, isTail c = false := by
    rw [List.dropWhile_eq_nil_iff]
    simp only [Bool.not_eq_true']
  rw [setPath, ← hnil]
  generalize withSegments _ _ = w
  cases hrest : cs.dropWhile (!isTail ·) with
  | nil => exact iff_of_true (setTail_nil w) rfl
  | cons c rest =>
    have hc : isTail c = true := by
      have hhead := List.head?_dropWhile_not (!isTail ·) cs
      rw [hrest] at hhead
      simpa using hhead
    exact iff_of_false (setTail_cons w hc rest) (List.cons_ne_nil c rest)

/-! ### What is asked for -/

def SharesServer (u v : Url) : Prop :=
  u.scheme = v.scheme ∧ u.host = v.host ∧ u.port = v.port

theorem SharesServer.symm {u v : Url} (h : u.SharesServer v) : v.SharesServer u :=
  ⟨h.1.symm, h.2.1.symm, h.2.2.symm⟩

theorem SharesServer.trans {u v w : Url} (h : u.SharesServer v) (h' : v.SharesServer w) :
    u.SharesServer w :=
  ⟨h.1.trans h'.1, h.2.1.trans h'.2.1, h.2.2.trans h'.2.2⟩

theorem sharesServer_setPath (hkind : kindOf v.scheme = .web) (cs : List Char) :
    (v.setPath [] cs).SharesServer v :=
  ⟨setPath_scheme v [] cs, setPath_server hkind cs⟩

theorem sharesServer_withoutUser (u : Url) : u.withoutUser.SharesServer u :=
  ⟨withoutUser_scheme u, withoutUser_host u, withoutUser_port u⟩

theorem asked_eq_ok (h : u.asked = .ok v) : v = u ∧ u.isHttp = true := by
  unfold asked at h
  split at h
  · cases h
  · rename_i hhttp
    split at h
    · cases h
    · cases h
      exact ⟨rfl, by simpa using hhttp⟩

/-- A request asks for what its address says, without a user. -/
theorem url_of_request {d : Draft} {settings : Settings} {q : Request}
    (h : d.request settings = .ok q) :
    ∃ u, parse d.address = .ok u ∧ u.isHttp = true ∧ q.url = u.withoutUser := by
  unfold Draft.request at h
  obtain ⟨u, hu, h⟩ := bind_eq_ok.1 h
  obtain ⟨-, h⟩ := check_eq_ok.1 h
  obtain ⟨-, h⟩ := check_eq_ok.1 h
  obtain ⟨asked, hasked, h⟩ := bind_eq_ok.1 h
  obtain rfl := pure_eq_ok.1 h
  obtain ⟨rfl, hhttp⟩ := asked_eq_ok hasked
  rw [isHttp, withoutUser_scheme] at hhttp
  exact ⟨u, mapError_eq_ok.1 hu, hhttp, rfl⟩

end Compliance.Http.Url
