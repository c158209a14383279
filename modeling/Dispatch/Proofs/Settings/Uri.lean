import Dispatch.Proofs.Registry.Wiring
import Dispatch.Proofs.Text.Numerals

/-!
# What a connection URI identifies

The URI of an AMQP section runs username, password, host, port and virtual host together, with a colon, an at
sign, a colon and a slash between them, and of all that these texts may hold only the slashes of the virtual host
are escaped. So port and path part can be read back from any URI (`uri_eq_iff`), but credentials and host only
where no separator stands too early or too late, and a virtual host only up to slashes in front and slashes that
were escaped already. Sections that are `Separable` are told apart by their URIs, and every other section has the
URI of one of them, which is for another connection (`uri_identifies`).
-/

set_option autoImplicit false

namespace Dispatch

/-! ## Cuts -/

section Cuts

variable {α : Type}

theorem first_cut_unique {mark : α} {front front' rest rest' : List α} (absent : mark ∉ front)
    (absent' : mark ∉ front') : front ++ mark :: rest = front' ++ mark :: rest' ↔ front = front' ∧ rest = rest' := by
  induction front generalizing front' with
  | nil =>
      cases front' with
      | nil => simp
      | cons first front' =>
          have apart : mark ≠ first := fun same => absent' (same ▸ List.mem_cons_self)
          simp [apart]
  | cons first front ih =>
      have apart : first ≠ mark := fun same => absent (same ▸ List.mem_cons_self)
      cases front' with
      | nil => simp [apart]
      | cons first' front' =>
          have left : mark ∉ front := fun member => absent (List.mem_cons_of_mem _ member)
          have left' : mark ∉ front' := fun member => absent' (List.mem_cons_of_mem _ member)
          simp [ih left left', and_assoc]

theorem last_cut_unique {mark : α} {front front' rest rest' : List α} (absent : mark ∉ rest)
    (absent' : mark ∉ rest') : front ++ mark :: rest = front' ++ mark :: rest' ↔ front = front' ∧ rest = rest' := by
  have turned : rest.reverse ++ mark :: front.reverse = rest'.reverse ++ mark :: front'.reverse ↔
      rest.reverse = rest'.reverse ∧ front.reverse = front'.reverse :=
    first_cut_unique (mt List.mem_reverse.1 absent) (mt List.mem_reverse.1 absent')
  rw [← List.reverse_inj]
  simpa [and_comm] using turned

end Cuts

theorem digits_inj {m n : Nat} : Decimal.digits m = Decimal.digits n ↔ m = n := by
  refine ⟨fun same => ?_, fun same => same ▸ rfl⟩
  have read (k : Nat) : (Decimal.digits k).foldl (fun value c => value * 10 + (c.toNat - '0'.toNat)) 0 = k := by
    obtain ⟨places, numeral⟩ := Numeral.exists_places k
    rw [numeral.text, List.foldl_map, ← numeral.value]
    refine List.foldl_ext _ _ _ fun value place member => ?_
    rw [(digitChar_code (numeral.small place member)).2]
  rw [← read m, same, read n]

namespace AmqpSettings

/-! ## Virtual hosts -/

def escapedSlash : List Char := ['%', '2', 'f']

def escapeSlashes (name : List Char) : List Char := name.flatMap fun c => if c = '/' then escapedSlash else [c]

def unescapeSlashes : List Char → List Char
  | '%' :: '2' :: 'f' :: rest => '/' :: unescapeSlashes rest
  | c :: rest => c :: unescapeSlashes rest
  | [] => []

/-- A virtual host without the slash that may stand in front of it, so that `/` and the empty one are the same. -/
def bareHost (virtualHost : String) : List Char :=
  match virtualHost.toList with
  | '/' :: name => name
  | name => name

def pathOf : List Char → List Char
  | [] => escapedSlash
  | name => escapeSlashes (name.dropWhile (· == '/'))

theorem toList_pathPart (virtualHost : String) : (pathPart virtualHost).toList = pathOf (bareHost virtualHost) := by
  unfold pathPart bareHost
  split
  · rename_i root
    rcases root with rfl | rfl <;> rfl
  · rename_i named
    rw [not_or, ← String.toList_inj, ← String.toList_inj] at named
    rw [String.toList_ofList]
    generalize virtualHost.toList = text at named ⊢
    split
    · rename_i name
      cases name with
      | nil => exact absurd rfl named.2
      | cons first name => rfl
    · cases text with
      | nil => exact absurd rfl named.1
      | cons first name => rfl

theorem slash_notMem_escapeSlashes (name : List Char) : '/' ∉ escapeSlashes name := by
  intro member
  obtain ⟨c, -, inside⟩ := List.mem_flatMap.1 member
  split at inside
  · revert inside
    decide
  · rename_i other
    exact other (List.mem_singleton.1 inside).symm

theorem slash_notMem_pathOf (name : List Char) : '/' ∉ pathOf name := by
  cases name with
  | nil => decide
  | cons first name => exact slash_notMem_escapeSlashes _

theorem escape_slash (rest : List Char) : escapeSlashes ('/' :: rest) = escapedSlash ++ escapeSlashes rest := rfl

theorem escape_other {first : Char} (other : first ≠ '/') (rest : List Char) :
    escapeSlashes (first :: rest) = first :: escapeSlashes rest := by
  rw [escapeSlashes, List.flatMap_cons, if_neg other]
  rfl

theorem unescape_escaped (rest : List Char) :
    unescapeSlashes (escapedSlash ++ rest) = '/' :: unescapeSlashes rest := by
  simp [escapedSlash, unescapeSlashes]

theorem unescape_other {first : Char} {rest : List Char} (other : ¬escapedSlash <+: first :: rest) :
    unescapeSlashes (first :: rest) = first :: unescapeSlashes rest := by
  rw [unescapeSlashes]
  rintro tail rfl rfl
  exact other ⟨tail, rfl⟩

theorem escaped_induction {P : List Char → Prop} (nil : P [])
    (escaped : ∀ rest, P rest → P (escapedSlash ++ rest))
    (other : ∀ first rest, ¬escapedSlash <+: first :: rest → P rest → P (first :: rest)) (name : List Char) :
    P name := by
  induction name using unescapeSlashes.induct with
  | case1 rest ih => exact escaped rest ih
  | case2 first rest apart ih =>
      refine other first rest ?_ ih
      rintro ⟨tail, same⟩
      cases same
      exact apart tail rfl rfl
  | case3 => exact nil

theorem prefix_of_escape {start name : List Char} (unmarked : '%' ∉ start) (begins : start <+: escapeSlashes name) :
    start <+: name := by
  induction start generalizing name with
  | nil => exact List.nil_prefix
  | cons c start ih =>
      cases name with
      | nil => cases List.prefix_nil.1 begins
      | cons first rest =>
          by_cases slash : first = '/'
          · subst slash
            rw [escape_slash] at begins
            exact absurd (List.cons_prefix_cons.1 begins).1 fun same => unmarked (same ▸ List.mem_cons_self)
          · rw [escape_other slash] at begins
            obtain ⟨rfl, more⟩ := List.cons_prefix_cons.1 begins
            exact List.cons_prefix_cons.2 ⟨rfl, ih (fun member => unmarked (List.mem_cons_of_mem _ member)) more⟩

theorem prefix_of_unescape {start name : List Char} (unmarked : '/' ∉ start)
    (begins : start <+: unescapeSlashes name) : start <+: name := by
  induction name using escaped_induction generalizing start with
  | nil => exact begins
  | escaped rest ih =>
      cases start with
      | nil => exact List.nil_prefix
      | cons c start =>
          rw [unescape_escaped] at begins
          exact absurd (List.cons_prefix_cons.1 begins).1 fun same => unmarked (same ▸ List.mem_cons_self)
  | other first rest other ih =>
      cases start with
      | nil => exact List.nil_prefix
      | cons c start =>
          rw [unescape_other other] at begins
          obtain ⟨rfl, more⟩ := List.cons_prefix_cons.1 begins
          exact List.cons_prefix_cons.2 ⟨rfl, ih (fun member => unmarked (List.mem_cons_of_mem _ member)) more⟩

theorem escape_unescape (name : List Char) : escapeSlashes (unescapeSlashes name) = escapeSlashes name := by
  induction name using escaped_induction with
  | nil => rfl
  | escaped rest ih =>
      rw [unescape_escaped, escape_slash, ih]
      rfl
  | other first rest other ih =>
      rw [unescape_other other, escapeSlashes, List.flatMap_cons, ← escapeSlashes, ih]
      rfl

theorem unescape_escape (name : List Char) : unescapeSlashes (escapeSlashes name) = unescapeSlashes name := by
  induction name using escaped_induction with
  | nil => rfl
  | escaped rest ih =>
      have kept : escapeSlashes (escapedSlash ++ rest) = escapedSlash ++ escapeSlashes rest := rfl
      rw [kept, unescape_escaped, unescape_escaped, ih]
  | other first rest other ih =>
      by_cases slash : first = '/'
      · subst slash
        rw [escape_slash, unescape_escaped, unescape_other other, ih]
      · have still : ¬escapedSlash <+: first :: escapeSlashes rest := by
          intro begins
          obtain ⟨rfl, more⟩ := List.cons_prefix_cons.1 begins
          exact other (List.cons_prefix_cons.2 ⟨rfl, prefix_of_escape (by decide) more⟩)
        rw [escape_other slash, unescape_other still, unescape_other other, ih]

theorem unescape_plain (name : List Char) : ¬escapedSlash <:+: unescapeSlashes name := by
  induction name using escaped_induction with
  | nil => decide
  | escaped rest ih =>
      rw [unescape_escaped, List.infix_cons_iff]
      rintro (begins | inside)
      · exact absurd (List.cons_prefix_cons.1 begins).1 (by decide)
      · exact ih inside
  | other first rest other ih =>
      rw [unescape_other other, List.infix_cons_iff]
      rintro (begins | inside)
      · obtain ⟨rfl, more⟩ := List.cons_prefix_cons.1 begins
        exact other (List.cons_prefix_cons.2 ⟨rfl, prefix_of_unescape (by decide) more⟩)
      · exact ih inside

theorem unescape_of_plain {name : List Char} (plain : ¬escapedSlash <:+: name) : unescapeSlashes name = name := by
  induction name with
  | nil => rfl
  | cons first rest ih =>
      rw [unescape_other (mt List.IsPrefix.isInfix plain), ih fun inside => plain (List.infix_cons inside)]

theorem unescape_unslashed {name : List Char} (bare : '/' ∉ unescapeSlashes name) : unescapeSlashes name = name := by
  induction name using escaped_induction with
  | nil => rfl
  | escaped rest =>
      rw [unescape_escaped] at bare
      exact absurd List.mem_cons_self bare
  | other first rest other ih =>
      rw [unescape_other other] at bare ⊢
      rw [ih fun member => bare (List.mem_cons_of_mem _ member)]

inductive PlainHost : List Char → Prop
  | root : PlainHost []
  | slash : PlainHost ['/']
  | named {first : Char} {rest : List Char} (bare : first ≠ '/') (plain : ¬escapedSlash <:+: rest)
      (other : first :: rest ≠ escapedSlash) : PlainHost (first :: rest)

theorem pathOf_cons (first : Char) (rest : List Char) :
    pathOf (first :: rest) = escapeSlashes ((first :: rest).dropWhile (· == '/')) := rfl

theorem pathOf_named {first : Char} (bare : first ≠ '/') (rest : List Char) :
    pathOf (first :: rest) = first :: escapeSlashes rest := by
  rw [pathOf_cons, List.dropWhile_cons_of_neg (by simpa using bare), escape_other bare]

theorem escape_inj {name name' : List Char} (plain : ¬escapedSlash <:+: name) (plain' : ¬escapedSlash <:+: name')
    (same : escapeSlashes name = escapeSlashes name') : name = name' := by
  rw [← unescape_of_plain plain, ← unescape_escape, same, unescape_escape, unescape_of_plain plain']

theorem pathOf_inj {name name' : List Char} (plain : PlainHost name) (plain' : PlainHost name') :
    pathOf name = pathOf name' ↔ name = name' := by
  refine ⟨fun same => ?_, fun same => same ▸ rfl⟩
  -- only the root has the path part that a virtual host of this very name would have
  have rooted {first : Char} {rest : List Char} (bare : first ≠ '/') (plain : ¬escapedSlash <:+: rest)
      (other : first :: rest ≠ escapedSlash) : pathOf (first :: rest) ≠ escapedSlash := by
    intro same
    rw [pathOf_named bare] at same
    obtain ⟨rfl, tail⟩ := List.cons.inj same
    have digits : rest = ['2', 'f'] := escape_inj plain (by decide) tail
    exact other (by rw [digits]; rfl)
  cases plain with
  | root =>
      cases plain' with
      | root => rfl
      | slash => cases same
      | named bare plain other => exact absurd same.symm (rooted bare plain other)
  | slash =>
      cases plain' with
      | root => cases same
      | slash => rfl
      | named bare => rw [pathOf_named bare] at same; cases same
  | named bare plain other =>
      cases plain' with
      | root => exact absurd same (rooted bare plain other)
      | slash => rw [pathOf_named bare] at same; cases same
      | named bare' plain' =>
          rw [pathOf_named bare, pathOf_named bare'] at same
          obtain ⟨rfl, tail⟩ := List.cons.inj same
          rw [escape_inj plain plain' tail]

theorem exists_plainHost (name : List Char) : ∃ plain, PlainHost plain ∧ pathOf plain = pathOf name := by
  cases name with
  | nil => exact ⟨[], .root, rfl⟩
  | cons first rest =>
      have start := List.head?_dropWhile_not (· == '/') (first :: rest)
      rw [pathOf_cons]
      cases left : (first :: rest).dropWhile (· == '/') with
      | nil => exact ⟨['/'], .slash, rfl⟩
      | cons initial name =>
          rw [left] at start
          have bare : initial ≠ '/' := by simpa using start
          by_cases root : initial :: name = escapedSlash
          · exact ⟨[], .root, by rw [root]; rfl⟩
          · refine ⟨initial :: unescapeSlashes name, .named bare (unescape_plain name) ?_, ?_⟩
            · intro same
              obtain ⟨rfl, tail⟩ := List.cons.inj same
              have bare : '/' ∉ unescapeSlashes name := by
                rw [tail]
                decide
              exact root (by rw [← unescape_unslashed bare, tail]; rfl)
            · rw [pathOf_named bare, escape_unescape, escape_other bare]

/-! ## Credentials and hosts -/

def PlainAuthority (host : List Char) : Prop := ∀ front rest, host = front ++ '@' :: rest → rest.all Text.isBlank

theorem authority_inj {password password' host host' : List Char} (plain : PlainAuthority host)
    (plain' : PlainAuthority host') (named : ¬host.all Text.isBlank) (named' : ¬host'.all Text.isBlank) :
    password ++ '@' :: host = password' ++ '@' :: host' ↔ password = password' ∧ host = host' := by
  constructor
  · intro same
    -- if one at sign stands before the other, a host follows it
    rcases List.append_eq_append_iff.1 same with ⟨between, rfl, tail⟩ | ⟨between, rfl, tail⟩
    · cases between with
      | nil => simpa using tail
      | cons mark between =>
          obtain ⟨rfl, rfl⟩ := List.cons.inj tail
          exact absurd (plain _ _ rfl) named'
    · cases between with
      | nil => simpa [eq_comm] using tail
      | cons mark between =>
          obtain ⟨rfl, rfl⟩ := List.cons.inj tail
          exact absurd (plain' _ _ rfl) named
  · rintro ⟨rfl, rfl⟩
    rfl

theorem exists_plainAuthority (password : List Char) {host : List Char} (named : ¬host.all Text.isBlank) :
    ∃ password' host', PlainAuthority host' ∧ ¬host'.all Text.isBlank ∧
      password' ++ '@' :: host' = password ++ '@' :: host := by
  induction size : host.length using Nat.strongRecOn generalizing password host with
  | ind n ih =>
      by_cases plain : PlainAuthority host
      · exact ⟨password, host, plain, named, rfl⟩
      · simp only [PlainAuthority, not_forall] at plain
        obtain ⟨front, rest, rfl, follows⟩ := plain
        have shorter : rest.length < n := by
          rw [← size, List.length_append, List.length_cons]
          omega
        obtain ⟨password', host', plain, named', same⟩ := ih _ shorter (password ++ '@' :: front) follows rfl
        exact ⟨password', host', plain, named', by simpa using same⟩

theorem exists_plainUsername (username rest : List Char) :
    ∃ username' rest', ':' ∉ username' ∧ username' ++ ':' :: rest' = username ++ ':' :: rest := by
  by_cases member : ':' ∈ username
  · obtain ⟨front, back, rfl, absent⟩ := List.eq_append_cons_of_mem member
    exact ⟨front, back ++ ':' :: rest, absent, by simp⟩
  · exact ⟨username, rest, member, rfl⟩

/-! ## URIs -/

structure Connection where
  username : String
  password : String
  host : String
  port : Nat
  virtualHost : List Char
  deriving DecidableEq

def connection (s : AmqpSettings) : Connection :=
  ⟨s.username, s.password, s.host, s.port, bareHost s.virtualHost⟩

def authority (s : AmqpSettings) : List Char :=
  s.username.toList ++ ':' :: (s.password.toList ++ '@' :: s.host.toList)

/-- Settings whose texts keep the separators of a URI apart. A password may be any text. -/
structure Separable (s : AmqpSettings) : Prop where
  username : ':' ∉ s.username.toList
  host : PlainAuthority s.host.toList
  virtualHost : PlainHost (bareHost s.virtualHost)

theorem toList_uri (s : AmqpSettings) :
    s.uri.toList = "amqp://".toList ++
      ((s.authority ++ ':' :: Decimal.digits s.port) ++ '/' :: (pathPart s.virtualHost).toList) := by
  have port : (toString s.port).toList = Decimal.digits s.port := Nat.toList_repr
  have text : s.uri = "amqp://" ++ s.username ++ ":" ++ s.password ++ "@" ++ s.host ++ ":" ++ toString s.port ++ "/" ++
    pathPart s.virtualHost := rfl
  simp only [text, String.toList_append, port, authority, List.append_assoc, List.cons_append]
  rfl

theorem uri_eq_iff (s t : AmqpSettings) :
    s.uri = t.uri ↔
      s.authority = t.authority ∧ s.port = t.port ∧ pathPart s.virtualHost = pathPart t.virtualHost := by
  have colon_notMem (n : Nat) : ':' ∉ Decimal.digits n := fun member => absurd (digits_isDigit member) (by decide)
  have slash_notMem (virtualHost : String) : '/' ∉ (pathPart virtualHost).toList := by
    rw [toList_pathPart]
    exact slash_notMem_pathOf _
  rw [← String.toList_inj, toList_uri, toList_uri, List.append_cancel_left_eq,
    last_cut_unique (slash_notMem _) (slash_notMem _), last_cut_unique (colon_notMem _) (colon_notMem _), digits_inj,
    String.toList_inj, and_assoc]

theorem validate_ok_iff (s : AmqpSettings) :
    s.validate = .ok () ↔ ¬s.host.toList.all Text.isBlank ∧ s.pool.validate "amqp" = .ok () := by
  rw [validate, check_then_ok, requireText, Text.isBlankText]
  split <;> simp [*]

variable {s t : AmqpSettings}

theorem authority_eq_iff (valid : s.validate = .ok ()) (valid' : t.validate = .ok ()) (plain : s.Separable)
    (plain' : t.Separable) :
    s.authority = t.authority ↔ s.username = t.username ∧ s.password = t.password ∧ s.host = t.host := by
  rw [authority, authority, first_cut_unique plain.username plain'.username,
    authority_inj plain.host plain'.host (s.validate_ok_iff.1 valid).1 (t.validate_ok_iff.1 valid').1,
    String.toList_inj, String.toList_inj, String.toList_inj]

theorem pathPart_eq_iff (plain : s.Separable) (plain' : t.Separable) :
    pathPart s.virtualHost = pathPart t.virtualHost ↔ bareHost s.virtualHost = bareHost t.virtualHost := by
  rw [← String.toList_inj, toList_pathPart, toList_pathPart, pathOf_inj plain.virtualHost plain'.virtualHost]

theorem Separable.congr (same : s.connection = t.connection) (plain : s.Separable) : t.Separable := by
  obtain ⟨username, -, host, -, virtualHost⟩ := Connection.mk.inj same
  exact ⟨username ▸ plain.username, host ▸ plain.host, virtualHost ▸ plain.virtualHost⟩

theorem exists_separable (valid : s.validate = .ok ()) :
    ∃ r : AmqpSettings, r.validate = .ok () ∧ r.Separable ∧ r.uri = s.uri := by
  obtain ⟨named, pool⟩ := s.validate_ok_iff.1 valid
  obtain ⟨username, rest, plainUsername, first⟩ := exists_plainUsername s.username.toList s.password.toList
  obtain ⟨password, host, plainHost, named', second⟩ := exists_plainAuthority rest named
  obtain ⟨virtualHost, plain, path⟩ := exists_plainHost (bareHost s.virtualHost)
  have bare : bareHost (String.ofList ('/' :: virtualHost)) = virtualHost := by simp [bareHost]
  let r : AmqpSettings :=
    { s with
      username := .ofList username
      password := .ofList password
      host := .ofList host
      virtualHost := .ofList ('/' :: virtualHost) }
  refine ⟨r, r.validate_ok_iff.2 ⟨?_, pool⟩, ⟨?_, ?_, ?_⟩, (uri_eq_iff r s).2 ⟨?_, rfl, ?_⟩⟩
  · rwa [String.toList_ofList]
  · rwa [String.toList_ofList]
  · rwa [String.toList_ofList]
  · rwa [bare]
  · simp only [authority, r, String.toList_ofList]
    rw [second]
    simpa using congrArg (· ++ '@' :: s.host.toList) first
  · rw [← String.toList_inj, toList_pathPart, toList_pathPart, bare, path]

/-- Two separable settings have the same URI only if they are for the same connection, and whatever URI a valid
section has, there is a separable one with this URI: a section that is not separable shares its URI with another
connection. -/
theorem uri_identifies (s t : AmqpSettings) (valid : s.validate = .ok ()) (valid' : t.validate = .ok ()) :
    (s.Separable → t.Separable → (s.uri = t.uri ↔ s.connection = t.connection)) ∧
      ∃ r : AmqpSettings, r.validate = .ok () ∧ r.Separable ∧ r.uri = s.uri ∧
        (r.connection = s.connection ↔ s.Separable) := by
  have identified {s t : AmqpSettings} (valid : s.validate = .ok ()) (valid' : t.validate = .ok ())
      (plain : s.Separable) (plain' : t.Separable) : s.uri = t.uri ↔ s.connection = t.connection := by
    rw [uri_eq_iff, authority_eq_iff valid valid' plain plain', pathPart_eq_iff plain plain', connection, connection,
      Connection.mk.injEq]
    simp only [and_assoc]
  refine ⟨identified valid valid', ?_⟩
  obtain ⟨r, validRead, plain, same⟩ := exists_separable valid
  exact ⟨r, validRead, plain, same, fun same => plain.congr same,
    fun plain' => (identified validRead valid plain plain').1 same⟩

def signedIn (username password : String) : AmqpSettings := { standard with username, password }

def hostedAt (virtualHost : String) : AmqpSettings := { standard with virtualHost }

theorem uri_identifies_passwords :
    (signedIn "ann" "b:c").validate = .ok () ∧ (signedIn "ann" "b@c").validate = .ok () ∧
      (signedIn "ann" "b:c").uri ≠ (signedIn "ann" "b@c").uri ∧
      ∃ r : AmqpSettings, r.validate = .ok () ∧ r.Separable ∧ r.uri = (signedIn "ann" "b:c").uri := by
  have plain (password : String) : (signedIn "ann" password).Separable := by
    have colon : ':' ∉ "ann".toList := by decide
    have sign : '@' ∉ "localhost".toList := by decide
    have root : bareHost "/" = [] := by decide
    refine ⟨colon, fun front rest same => absurd ?_ sign, root ▸ .root⟩
    rw [show "localhost".toList = front ++ '@' :: rest from same]
    simp
  obtain ⟨identified, r, valid, separable, same, -⟩ :=
    uri_identifies (signedIn "ann" "b:c") (signedIn "ann" "b@c") rfl rfl
  refine ⟨rfl, rfl, fun shared => ?_, r, valid, separable, same⟩
  exact absurd ((identified (plain _) (plain _)).1 shared) (by decide)

theorem uri_shared :
    ((signedIn "a:b" "c").validate = .ok () ∧ (signedIn "a" "b:c").validate = .ok () ∧
      (signedIn "a:b" "c").uri = (signedIn "a" "b:c").uri ∧
      (signedIn "a:b" "c").connection ≠ (signedIn "a" "b:c").connection) ∧
    (hostedAt "/").validate = .ok () ∧ (hostedAt "%2f").validate = .ok () ∧
      (hostedAt "/").uri = (hostedAt "%2f").uri ∧ (hostedAt "/").connection ≠ (hostedAt "%2f").connection := by
  refine ⟨⟨rfl, rfl, ?_, by decide⟩, rfl, rfl, ?_, by decide⟩
  · decide
  · decide

end AmqpSettings

end Dispatch
