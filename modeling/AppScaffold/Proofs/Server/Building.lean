import AppScaffold.Proofs.Build.Success
import AppScaffold.Proofs.Server.Uploads
import AppScaffold.Server.Routes

/-!
# Builds on request

How an order with a token is carried out: the token is looked up, the build runs, and its outcome
is the answer.
-/

set_option autoImplicit false

namespace AppScaffold.Server

open App (Project)
open Build (Builder)
open Host (Files Path.join outcome outcome_bind outcome_get outcome_map)
open Web (Method Request Response)

variable {s : Service} {m : Moment} {r : Request} {o : Order} {p : Project} {token : String}
  {before after : State}

theorem outcome_findUpload (s : Service) (token : String) (before : State) :
    outcome (findUpload s token) before =
      if (Check.fileName token).isValid then
        if before.files.isFile (Path.join s.uploadDir token) then
          (.ok (Path.join s.uploadDir token), before)
        else (.error (.badRequest "Uploaded keystore not found"), before)
      else (.error (.badRequest "Invalid keystore path"), before) := by
  unfold findUpload
  split <;> rename_i hvalid
  · rw [if_neg (by simpa using hvalid)]
    rfl
  · rw [if_pos (by simpa using hvalid), outcome_bind, outcome_get]
    dsimp only
    split <;> rename_i hfile
    · rw [if_neg (by simpa using hfile)]
      rfl
    · rw [if_pos (by simpa using hfile)]
      rfl

theorem outcome_request (hp : o.project? = .ok p) (htoken : nonempty o.keystore = some token)
    (before : State) :
    outcome (o.request s) before =
      match outcome (findUpload s token) before with
      | (.ok path, after) => (.ok ⟨p, nonempty o.password, some path⟩, after)
      | (.error e, after) => (.error e, after) := by
  have hrequest : outcome (o.request s) before =
      outcome ((some <$> findUpload s token) >>= fun keystore =>
        (pure ⟨p, nonempty o.password, keystore⟩ : Work Builder.Request)) before := by
    rw [Order.request, hp, htoken]
    rfl
  rw [hrequest, outcome_bind, outcome_map]
  rcases outcome (findUpload s token) before with ⟨e | path, after⟩ <;> rfl

theorem outcome_countedBuild (s : Service) (m : Moment) (request : Builder.Request)
    (before : State) :
    outcome (countedBuild s m request) before =
      let built := outcome (s.builder.build s.launcher s.environment ⟨m.milliseconds, m.unique⟩
        request) before.files
      (.ok built.1,
        ⟨built.2, countEnd m built.1 (before.metrics.increment Telemetry.buildsStarted)⟩) := rfl

def buildAnswer (built : Except Report.Error Builder.Outcome) : Work Response :=
  match built with
  | .ok out => return jsonResponse 200 (Outcome.toJson out)
  | .error e => throw (.ofBuildError e)

theorem generate_of_body (horder : readBody s.bodyLimit Order.read r = .ok o) :
    generate s m r = Work.answer (o.request s >>= fun request =>
      countedBuild s m request >>= buildAnswer) := by
  unfold generate
  rw [horder]
  rfl

theorem run_generate (horder : readBody s.bodyLimit Order.read r = .ok o) (before : State) :
    (generate s m r).run before =
      match outcome (o.request s) before with
      | (.error e, after) => (e.toResponse, after)
      | (.ok request, after) =>
        let built := outcome (s.builder.build s.launcher s.environment ⟨m.milliseconds, m.unique⟩
          request) after.files
        (match built.1 with
          | .ok out => jsonResponse 200 (Outcome.toJson out)
          | .error e => (Problem.ofBuildError e).toResponse,
        ⟨built.2, countEnd m built.1 (after.metrics.increment Telemetry.buildsStarted)⟩) := by
  rw [generate_of_body horder, Work.run_answer, outcome_bind]
  rcases outcome (o.request s) before with ⟨e | request, after⟩
  · rfl
  · dsimp only
    rw [outcome_bind, outcome_countedBuild]
    dsimp only
    cases (outcome (s.builder.build s.launcher s.environment ⟨m.milliseconds, m.unique⟩ request)
      after.files).1 <;> rfl

theorem run_respond (route : Route) (hroute : Route.ofPath r.path = route)
    (hmethod : r.method = .post) (hposted : route.methods = [.post]) (before : State) :
    (respond s m r).run before =
      (openToAll ((serve s m r route).run before).1, ((serve s m r route).run before).2) := by
  subst hroute
  have hserved : (!(Route.ofPath r.path).methods.contains r.method) = false := by
    rw [hposted, hmethod]
    rfl
  have hnotOptions : (r.method == .options) = false := by
    rw [hmethod]
    rfl
  have hnotHead : (r.method == .head) = false := by
    rw [hmethod]
    rfl
  unfold respond
  dsimp only
  rw [hnotOptions, hserved, hnotHead]
  rfl

end AppScaffold.Server
