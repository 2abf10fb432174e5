import Stencil.Proofs.Generate.Faults
import Stencil.Proofs.Generate.Steps
import Stencil.Service.Basic

/-!
# Calls for files

A call for files whose request can be read is answered with the files, or else with the problem. As
all problems of a request are its own fault, the service never has to admit to one of its own.

## Key results

- `answer_call`: a call for files is answered by what generating them yields
- `answer_generate`: the answer is a success that holds exactly the files, or it blames the request
-/

namespace Stencil.Service

variable {registry : Registry} {nanos : Nat} {c : Call} {request : Request}

/-- What is sent for a JSON value. Every origin may read it. -/
theorem message_json (status : Nat) (v : Json) :
    Reply.message ⟨status, .json v⟩ =
      { status, body := v.compact
        headers := [("content-type", "application/json"), ("access-control-allow-origin", "*")] } :=
  rfl

/-- A call with the method and the path of a route is answered by its reply. -/
theorem answer_route {route : Route} (hpath : Route.ofPath? c.path = some route)
    (hmethod : c.method = route.method) :
    answer registry nanos c = (route.reply registry nanos c).message := by
  -- No route has the method of a call that asks what is allowed.
  have hoptions : c.method ≠ "OPTIONS" := by
    rw [hmethod]
    cases route <;> decide
  rw [answer, if_neg hoptions, hpath]
  exact if_pos hmethod

/-- A call for files is answered by what generating them yields. -/
theorem answer_call (hmethod : c.method = "POST") (hpath : c.path = "/generate")
    (hrequest : requestOf c = .ok request) :
    answer registry nanos c =
      match generate registry request with
      | .ok files => (Reply.success (Response.mk files nanos).toJson).message
      | .error e => (Reply.failure e).message := by
  -- The path is that of the route for files.
  have hroute : Route.ofPath? c.path = some .generate := by
    rw [hpath]
    rfl
  rw [answer_route hroute hmethod]
  show (generateReply registry nanos c).message = _
  rw [generateReply, hrequest]
  cases hfiles : generate registry request <;> simp only [hfiles]

/-- Generating files from a request in memory fails for problems of the request only, whatever
profiles are registered. So a call for files whose request can be read succeeds and holds exactly the
files, or it is told that the request was at fault, and why. -/
theorem answer_generate (registry : Registry) :
    (∀ request e, generate registry request = .error e → e.isUserError = true) ∧
    ∀ nanos c request, c.method = "POST" → c.path = "/generate" → requestOf c = .ok request →
      (∀ files, generate registry request = .ok files →
        answer registry nanos c =
          { status := 200
            headers := [("content-type", "application/json"), ("access-control-allow-origin", "*")]
            body := (Json.object [("success", .bool true),
              ("data", (Response.mk files nanos).toJson)]).compact }) ∧
      (∀ e, generate registry request = .error e →
        answer registry nanos c =
          { status := 400
            headers := [("content-type", "application/json"), ("access-control-allow-origin", "*")]
            body := (Json.object [("success", .bool false),
              ("error", .string e.message)]).compact }) := by
  refine ⟨fun request e => excusable_generate registry request e,
    fun nanos c request hmethod hpath hrequest => ⟨fun files hfiles => ?_, fun e he => ?_⟩⟩
  · rw [answer_call hmethod hpath hrequest, hfiles]
    exact message_json 200 _
  · -- Only a problem of the service would be answered with another status.
    have huser : e.isUserError = true := excusable_generate registry request e he
    rw [answer_call hmethod hpath hrequest, he]
    show (Reply.failure e).message = _
    rw [Reply.failure, huser]
    exact message_json 400 _

/-- A call for the files of an empty object in the language `p`. -/
def emptyObjectCall (template : String) : Call where
  method := "POST"
  target := "/generate"
  headers := [("content-type", "application/json")]
  body := (Json.object [("tmpl", .string template), ("data", .string "\x7b\x7d"),
    ("config", .object [("lang", .string "p")])]).compact

/-- One template yields a file, a blank one does not. -/
theorem answer_generate_emptyObject :
    answer ⟨[uniformProfile false]⟩ 7 (emptyObjectCall "t") =
        { status := 200
          headers := [("content-type", "application/json"), ("access-control-allow-origin", "*")]
          body := (Json.object [("success", .bool true),
            ("data", (Response.mk [⟨"f", "t"⟩] 7).toJson)]).compact } ∧
      answer ⟨[uniformProfile false]⟩ 7 (emptyObjectCall " ") =
        { status := 400
          headers := [("content-type", "application/json"), ("access-control-allow-origin", "*")]
          body := (Json.object [("success", .bool false),
            ("error", .string "template is empty")]).compact } := by
  -- Both calls can be read as requests, also the one whose template is blank.
  have htext : requestOf (emptyObjectCall "t") = .ok ⟨"t", "\x7b\x7d", { lang := "p" }⟩ :=
    eq_ok_of_toOption (by decide +kernel)
  have hblank : requestOf (emptyObjectCall " ") = .ok ⟨" ", "\x7b\x7d", { lang := "p" }⟩ :=
    eq_ok_of_toOption (by decide +kernel)
  have hanswer := (answer_generate ⟨[uniformProfile false]⟩).2 7
  constructor
  · exact (hanswer _ _ rfl (by decide +kernel) htext).1 [⟨"f", "t"⟩] (by decide +kernel)
  · exact (hanswer _ _ rfl (by decide +kernel) hblank).2 (.empty "template")
      (generate_blank_template (by decide +kernel) _)

end Stencil.Service
