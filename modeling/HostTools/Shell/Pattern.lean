set_option autoImplicit false

namespace HostTools.Shell

inductive CharSet where
  | range (first last : Char)
  | named (name : String)
deriving DecidableEq, Repr

inductive Pattern where
  | any
  | one
  | exactly (char : Char)
  | among (negated : Bool) (sets : List CharSet)
deriving DecidableEq, Repr

namespace CharSet

def isPunctuation (char : Char) : Bool := '!' ≤ char && char ≤ '~' && !char.isAlphanum

def class? : String → Option (Char → Bool)
  | "alnum" => some Char.isAlphanum
  | "alpha" => some Char.isAlpha
  | "blank" => some fun char => char = ' ' || char = '\t'
  | "cntrl" => some fun char => char < ' ' || char = '\x7f'
  | "digit" => some Char.isDigit
  | "graph" => some fun char => '!' ≤ char && char ≤ '~'
  | "lower" => some Char.isLower
  | "print" => some fun char => ' ' ≤ char && char ≤ '~'
  | "punct" => some isPunctuation
  | "space" => some fun char => char = ' ' || ('\t' ≤ char && char ≤ '\r')
  | "upper" => some Char.isUpper
  | "xdigit" => some fun char =>
    char.isDigit || ('a' ≤ char && char ≤ 'f') || ('A' ≤ char && char ≤ 'F')
  | _ => none

-- Octets above ASCII come first.
def rank (char : Char) : Nat := (char.toNat + 128) % 256

def holds (char : Char) : CharSet → Bool
  | .range first last => rank first ≤ rank char && rank char ≤ rank last
  | .named name =>
    match class? name with
    | some isMember => isMember char
    | none => false

end CharSet

namespace Pattern

def accepts (char : Char) : Pattern → Bool
  | .any => true
  | .one => true
  | .exactly other => char = other
  | .among negated sets => (sets.any (CharSet.holds char)) != negated

def matchesText : List Pattern → List Char → Bool
  | [], text => text.isEmpty
  | .any :: pattern, [] => matchesText pattern []
  | .any :: pattern, char :: text =>
    matchesText pattern (char :: text) || matchesText (.any :: pattern) text
  | _ :: _, [] => false
  | item :: pattern, char :: text => accepts char item && matchesText pattern text
termination_by pattern text => (pattern.length, text.length)

def element : List Char → Option (Char × List Char)
  | '\\' :: char :: rest => some (char, rest)
  | char :: rest => some (char, rest)
  | [] => none

theorem length_element {text rest : List Char} {char : Char} (h : element text = some (char, rest)) :
    rest.length < text.length := by
  unfold element at h
  split at h <;> simp only [Option.some.injEq, Prod.mk.injEq, reduceCtorEq] at h
  all_goals
    obtain ⟨_, rfl⟩ := h
    simp only [List.length_cons]
    omega

def named? (text : List Char) : Option (String × List Char) :=
  match text with
  | ':' :: rest =>
    let name := rest.takeWhile Char.isLower
    match rest.drop name.length with
    | ':' :: ']' :: rest =>
      let name := String.ofList name
      if (CharSet.class? name).isSome then some (name, rest) else none
    | _ => none
  | _ => none

theorem length_named? {text rest : List Char} {name : String} (h : named? text = some (name, rest)) :
    rest.length < text.length := by
  unfold named? at h
  split at h
  · next tail =>
    simp only at h
    split at h
    · next tail' heq =>
      have := congrArg List.length heq
      simp only [List.length_drop, List.length_cons] at this
      split at h
      · simp only [Option.some.injEq, Prod.mk.injEq] at h
        obtain ⟨_, rfl⟩ := h
        simp only [List.length_cons]
        omega
      · simp at h
    · simp at h
  · simp at h

-- A dash before the closing bracket is itself.
def set? (text : List Char) : Option (CharSet × List Char) :=
  match (match text with | '[' :: rest => named? rest | _ => none) with
  | some (name, after) => some (.named name, after)
  | none =>
    match element text with
    | some (low, '-' :: bound) =>
      if bound.head? = some ']' then some (.range low low, '-' :: bound)
      else (element bound).map fun (high, beyond) => (.range low high, beyond)
    | some (low, after) => some (.range low low, after)
    | none => none

theorem length_set? {text rest : List Char} {found : CharSet} (h : set? text = some (found, rest)) :
    rest.length < text.length := by
  unfold set? at h
  split at h
  · next name after heq =>
    cases h
    split at heq
    · exact Nat.lt_succ_of_lt (length_named? heq)
    · cases heq
  · split at h
    · next low bound heq =>
      have short := length_element heq
      split at h
      · cases h
        exact short
      · obtain ⟨high, beyond, read, same⟩ : ∃ high beyond, element bound = some (high, beyond) ∧ beyond = rest := by
          cases read : element bound with
          | none => simp [read] at h
          | some pair =>
            rw [read] at h
            cases h
            exact ⟨pair.1, pair.2, rfl, rfl⟩
        have shorter := length_element read
        rw [same] at shorter
        exact Nat.lt_trans shorter (Nat.lt_trans (Nat.lt_succ_self bound.length) short)
    · next low after _ heq =>
      cases h
      exact length_element heq
    · cases h

-- The first character always belongs to the sets.
def sets : Bool → List Char → Option (List CharSet × List Char)
  | _, [] => none
  | first, char :: rest =>
    if char = ']' && !first then some ([], rest)
    else
      match read : set? (char :: rest) with
      | none => none
      | some (found, after) =>
        have := length_set? read
        (sets false after).map fun (more, rest) => (found :: more, rest)
termination_by _ text => text.length
decreasing_by exact this

def parse : Nat → List Char → List Pattern
  | 0, _ => []
  | _ + 1, [] => []
  | fuel + 1, '*' :: rest => .any :: parse fuel rest
  | fuel + 1, '?' :: rest => .one :: parse fuel rest
  | fuel + 1, '\\' :: char :: rest => .exactly char :: parse fuel rest
  | fuel + 1, '[' :: rest =>
    let (negated, body) := match rest with
      | '!' :: rest => (true, rest)
      | _ => (false, rest)
    match sets true body with
    | some (found, rest) => .among negated found :: parse fuel rest
    | none => .exactly '[' :: parse fuel rest
  | fuel + 1, char :: rest => .exactly char :: parse fuel rest

def ofText (text : List Char) : List Pattern := parse (text.length + 1) text

def guarded (text : List (Char × Bool)) : List Char :=
  text.flatMap fun (char, quoted) =>
    if quoted && (char = '\\' || "!*?[=~:/-]".toList.contains char) then ['\\', char] else [char]

-- The shortest front first.
def splits : List Char → List (List Char × List Char)
  | [] => [([], [])]
  | char :: rest =>
    ([], char :: rest) :: (splits rest).map fun (front, back) => (char :: front, back)

def trim (fromEnd longest : Bool) (pattern : List Pattern) (text : List Char) : List Char :=
  let ordered := if fromEnd != longest then (splits text).reverse else splits text
  let found := ordered.find? fun (front, back) =>
    matchesText pattern (if fromEnd then back else front)
  match found with
  | some (front, back) => if fromEnd then front else back
  | none => text

end Pattern

end HostTools.Shell
