import RouteMatch.Proofs.Evaluation.Parameters

/-!
# Facts of the connection

Headers are what a client says of its request; the method, the address and the security of the
connection are known without them.  The variables of headers are written last into the
environment, over those of the connection.  But each of them begins with `HTTP_` or describes the
content, whatever the name of the header, so that no header comes over a fact.  A route that looks
at facts only is then evaluated to the same attempt whatever the headers are.

## Main results

* `evaluate_congr` — an evaluation depends on what its route looks at.
* `evaluate_ofScope` — **headers cannot forge the facts of a connection.**
-/

namespace RouteMatch

section Congruence

variable {r : Route} {path : String} {a a' : Attributes} {config : Config}

/-- A constraint looks at the variable of its name only. -/
theorem checkConstraint_congr {constraint : String × Pattern}
    (h : a.server.get? (.text constraint.1) = a'.server.get? (.text constraint.1)) :
    checkConstraint a constraint = checkConstraint a' constraint := by
  funext captures
  rw [checkConstraint, checkConstraint, serverText, serverText, h]

/-- An evaluation depends on what its route looks at: without accepted media types and without
a predicate on the method, the security of the connection, and the variables of constraints. -/
theorem evaluate_congr (haccept : r.definition.accept = [])
    (hpredicate : r.definition.predicate = none) (hmethod : a.method = a'.method)
    (hsecure : a.isSecure = a'.isSecure)
    (hserver : ∀ c ∈ r.constraints, a.server.get? (.text c.1) = a'.server.get? (.text c.1)) :
    evaluate r path a config = evaluate r path a' config := by
  -- No check looks at anything else, so that the checks themselves are the same.
  have hchecks : checks r path a config = checks r path a' config := by
    have hconstraints : r.constraints.map (checkConstraint a)
        = r.constraints.map (checkConstraint a') :=
      List.map_congr_left fun c hc => checkConstraint_congr (hserver c hc)
    have hmedia : checkAccept r a = checkAccept r a' := by
      funext captures
      simp only [checkAccept, haccept, List.map_nil, List.isEmpty_nil, if_true]
    have hpred : checkPredicate r a = checkPredicate r a' := by
      funext captures
      simp only [checkPredicate, hpredicate]
    have hconnection : checkSecure r a = checkSecure r a' := by
      funext captures
      rw [checkSecure, checkSecure, hsecure]
    have hallowed : checkMethod r a = checkMethod r a' := by
      funext captures
      rw [checkMethod, checkMethod, hmethod]
    rw [checks, checks, plainChecks, plainChecks, hconstraints, hmedia, hpred, hconnection,
      hallowed]
  rw [evaluate, evaluate, evaluation, evaluation, hchecks]

end Congruence

/-- **Headers cannot forge the facts of a connection.**  Of two scopes that differ in their
headers only, whatever the names, the values and the order of these are, both give attributes or
both fail alike.  The attributes have the same method, the same indicator of a secure connection
and the same port, and so the same security; and they have the same variables, or none, under all
names that neither begin with `HTTP_` nor describe the content.  So a route without media types
and without a predicate whose constraints name such variables only is evaluated to the same
attempt for both, or fails alike. -/
theorem evaluate_ofScope (s : Scope) (headers headers' : List (List Char × List Char)) :
    Corresponds Attributes.SameConnection (Attributes.ofScope { s with headers := headers })
        (Attributes.ofScope { s with headers := headers' }) ∧
      (∀ name ∈ ["REQUEST_METHOD", "PATH_INFO", "QUERY_STRING", "SERVER_NAME", "SERVER_PORT",
        "REMOTE_ADDR", "HTTPS"], Scope.IsFact name) ∧
      ∀ a a', Attributes.ofScope { s with headers := headers } = .ok a →
        Attributes.ofScope { s with headers := headers' } = .ok a' →
        a.isSecure = a'.isSecure ∧
          ∀ d r, Route.build d = .ok r → d.accept = [] → d.predicate = none →
            (∀ entry ∈ d.server, Scope.IsFact entry.1) →
            ∀ path config, evaluate r path a config = evaluate r path a' config := by
  have hsame := Attributes.sameConnection_ofScope s headers headers'
  refine ⟨hsame, by simp [Scope.IsFact], ?_⟩
  intro a a' ha ha'
  rw [ha, ha'] at hsame
  cases hsame with
  | value hfacts =>
    refine ⟨hfacts.isSecure_eq, ?_⟩
    intro d r hbuild haccept hpredicate hserver path config
    have hdefinition := Route.definition_of_build hbuild
    refine evaluate_congr ?_ ?_ hfacts.method hfacts.isSecure_eq ?_
    · rw [hdefinition, haccept]
    · rw [hdefinition, hpredicate]
    · intro c hc
      have hname : c.1 ∈ d.server.map Prod.fst := by
        rw [← Route.map_fst_constraints_of_build hbuild]
        exact List.mem_map_of_mem hc
      obtain ⟨entry, hentry, hfst⟩ := List.mem_map.mp hname
      rw [← hfst]
      exact hfacts.server _ (hserver entry hentry)

/-- The scope of a secure connection. -/
def secureScope (headers : List (List Char × List Char)) : Scope where
  headers := headers
  query := "x=1".toList
  entries := [(.text "scheme", .text "https"), (.text "server", .list [.text "www", .int 8443])]

/-- The definition of a route that wants a secure connection to a port. -/
def secureDefinition : RouteDefinition :=
  { path := "/"
    secure := some true
    server := [("SERVER_PORT", "^8443$"), ("HTTPS", "on")] }

/-- Headers with the names of facts, in several spellings, instead of one header. -/
theorem evaluate_ofScope_secureScope :
    ∃ a a' r, Attributes.ofScope (secureScope [("Host".toList, "www".toList)]) = .ok a ∧
      Attributes.ofScope (secureScope [("HTTPS".toList, "off".toList),
        ("server-port".toList, "80".toList), ("Server_Port".toList, "81".toList)]) = .ok a' ∧
      Route.build secureDefinition = .ok r ∧
      (evaluate r "/" a {}).toOption.any Attempt.matched = true ∧
      evaluate r "/" a {} = evaluate r "/" a' {} := by
  obtain ⟨a, ha⟩ : ∃ a, Attributes.ofScope (secureScope [("Host".toList, "www".toList)]) = .ok a :=
    exists_of_toBool (by decide +kernel)
  obtain ⟨a', ha'⟩ : ∃ a', Attributes.ofScope (secureScope [("HTTPS".toList, "off".toList),
      ("server-port".toList, "80".toList), ("Server_Port".toList, "81".toList)]) = .ok a' :=
    exists_of_toBool (by decide +kernel)
  obtain ⟨r, hbuild, hmatched⟩ : ∃ r, Route.build secureDefinition = .ok r ∧
      ((Attributes.ofScope (secureScope [("Host".toList, "www".toList)])).toOption.any fun a =>
        (evaluate r "/" a {}).toOption.any Attempt.matched) = true :=
    exists_of_any_toOption (by decide +kernel)
  obtain ⟨-, -, hevaluate⟩ := evaluate_ofScope (secureScope [])
    [("Host".toList, "www".toList)] [("HTTPS".toList, "off".toList),
      ("server-port".toList, "80".toList), ("Server_Port".toList, "81".toList)]
  obtain ⟨-, hsame⟩ := hevaluate a a' ha ha'
  have hnames : ∀ entry ∈ secureDefinition.server, Scope.IsFact entry.1 := by
    simp [secureDefinition, Scope.IsFact]
  rw [ha] at hmatched
  exact ⟨a, a', r, ha, ha', hbuild, hmatched, hsame secureDefinition r hbuild rfl rfl hnames "/" {}⟩

end RouteMatch
