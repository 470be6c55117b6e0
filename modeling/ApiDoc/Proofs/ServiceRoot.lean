/-
This file says where the root of a service lies. The configured address, without the slashes at its
end, gets a segment for services, and the root is to be what it was before. Every occurrence of the
segment is removed to that end, so the root is the configured address exactly if that does not mention
the segment itself.
-/
import ApiDoc.Proofs.Fragment
import ApiDoc.Settings.Basic
import Mathlib.Data.List.DropRight

namespace ApiDoc

/-! ### Marks at the end -/

namespace Text

variable {mark last : CodePoint}

theorem dropTrailing_eq_rdropWhile (mark : CodePoint) (text : Text) :
    text.dropTrailing mark = text.rdropWhile (· = mark) := rfl

/-- A text that does not end in the mark stays as it is. -/
theorem dropTrailing_concat (other : last ≠ mark) (text : Text) :
    (text ++ [last]).dropTrailing mark = text ++ [last] := by
  rw [dropTrailing_eq_rdropWhile]
  exact List.rdropWhile_concat_neg _ _ _ (by simpa using other)

/-- What does not end in the mark occurs in a text exactly if it occurs before the marks at its end. -/
theorem infix_dropTrailing_iff (other : last ≠ mark) (fragment text : Text) :
    (fragment ++ [last]) <:+: text.dropTrailing mark ↔ (fragment ++ [last]) <:+: text := by
  constructor
  · intro occurs
    exact occurs.trans (List.rdropWhile_prefix (· = mark) text).isInfix
  · intro occurs
    have unmarked : last ∉ text.reverse.takeWhile (· = mark) := by
      intro member
      have marked := List.mem_takeWhile_imp member
      exact other (of_decide_eq_true marked)
    rw [← List.reverse_infix, List.reverse_concat,
      ← List.takeWhile_append_dropWhile (p := (· = mark)) (l := text.reverse)] at occurs
    rw [← List.reverse_infix, List.reverse_concat, dropTrailing, List.reverse_reverse]
    exact infix_of_infix_append unmarked occurs

end Text

/-! ### The root of a connection -/

namespace Settings

open Connection (servicesSegment)

/-- Where the environments of the configured service lie: at the address without the slashes at its
end, and at that with a word behind it. -/
def rootOf (settings : Settings) : Environment → Text
  | .production => settings.apiUrl.dropTrailing (.char '/')
  | .development => settings.apiUrl.dropTrailing (.char '/') ++ ("Dev" : Text)

variable (settings : Settings)

/-- The address of an environment is its root and the segment for services. -/
theorem url_connection (username apiKey : Option Text) (environment : Environment) :
    (settings.connection username apiKey).url environment =
      settings.rootOf environment ++ servicesSegment := by
  cases environment with
  | production => exact congrArg (_ ++ ·) (List.append_nil servicesSegment)
  | development =>
    have spelled : ("Dev/services" : Text) ++ [] = ("Dev" : Text) ++ servicesSegment := by decide
    refine (congrArg (_ ++ ·) spelled).trans ?_
    exact (List.append_assoc _ _ _).symm

/-- It does not end in a slash, so requests start with it as it is. -/
theorem baseUrl_connection (username apiKey : Option Text) (environment : Environment) :
    (settings.connection username apiKey).baseUrl environment =
      settings.rootOf environment ++ servicesSegment := by
  have spelled : servicesSegment = ("/service" : Text) ++ [.char 's'] := by decide
  rw [Connection.baseUrl, url_connection, spelled, ← List.append_assoc]
  exact Text.dropTrailing_concat (by decide) _

/-- The root mentions the segment exactly if the configured address does. -/
theorem mentions_rootOf (environment : Environment) :
    (settings.rootOf environment).mentions servicesSegment =
      settings.apiUrl.mentions servicesSegment := by
  have noSlash : CodePoint.char 's' ≠ .char '/' := by decide
  have ofProduction : servicesSegment <:+: settings.rootOf .production ↔
      servicesSegment <:+: settings.apiUrl :=
    Text.infix_dropTrailing_iff noSlash "/service" settings.apiUrl
  rw [Bool.eq_iff_iff, Text.mentions_iff, Text.mentions_iff, ← ofProduction]
  cases environment with
  | production => exact Iff.rfl
  | development =>
    constructor
    · intro occurs
      have lacks : CodePoint.char 'D' ∉ servicesSegment := by decide
      rcases Text.infix_of_infix_append_cons lacks occurs with before | after
      · exact before
      · exact absurd ((Text.mentions_iff _ _).mpr after) (by decide)
    · exact fun occurs => occurs.trans (List.prefix_append _ _).isInfix

/-- The root of a connection is where the environment lies exactly if the configured address does not
mention the segment for services. It is always what is left of that place without the segment. -/
theorem rootUrl_connection_iff (username apiKey : Option Text) (environment : Environment) :
    ((settings.connection username apiKey).rootUrl environment = settings.rootOf environment ↔
        settings.apiUrl.mentions servicesSegment = false) ∧
      (settings.connection username apiKey).rootUrl environment =
        (settings.rootOf environment).replacing servicesSegment [] := by
  have left : (settings.connection username apiKey).rootUrl environment =
      (settings.rootOf environment).replacing servicesSegment [] := by
    have unmarked : .char '/' ∉ ("services" : Text) := by decide
    rw [Connection.rootUrl, baseUrl_connection]
    exact (Text.replaceFrom_append_self unmarked [] 0 _ (Nat.zero_le _)).trans (List.append_nil _)
  refine ⟨?_, left⟩
  rw [left, Text.replacing_nil_eq_self_iff (by decide), mentions_rootOf]

/-- A service below a segment whose name only starts like the one for services is looked for at another
place than it was configured for. -/
theorem desk_displaced :
    let settings : Settings := { apiUrl := "https://host/services-desk/rest/" }
    settings.rootOf .production = "https://host/services-desk/rest" ∧
      (settings.connection none none).rootUrl .production = "https://host-desk/rest" ∧
      settings.rootOf .development = "https://host/services-desk/restDev" ∧
      (settings.connection none none).rootUrl .development = "https://host-desk/restDev" := by
  decide +kernel

end Settings

end ApiDoc
