import RpcBindings.Proofs.Sequence
import RpcBindings.Template.Render

namespace RpcBindings.Template

def Renders (embedded : Env → Value → Except Error String) (env : Env) (t : Template) (text : String) :
    Prop :=
  renderWith embedded env t = .ok (text, env)

variable {embedded : Env → Value → Except Error String} {env : Env} {e : Expr} {v : Value}
  {body yes no next : Template} {s rest : String}

theorem Renders.done : Renders embedded env .done "" := rfl

theorem Renders.text (h : Renders embedded env next rest) (s : String) :
    Renders embedded env (.text s.toList next) (s ++ rest) := by
  rw [Renders, renderWith, h, String.ofList_toList]
  rfl

theorem Renders.last (s : String) : Renders embedded env (.text s.toList .done) s := by
  have h := (Renders.done : Renders embedded env .done "").text s
  rwa [String.append_empty] at h

theorem Renders.output (he : e.eval env = .ok v) (hv : v.print = .ok s)
    (h : Renders embedded env next rest) : Renders embedded env (.output e next) (s ++ rest) := by
  rw [Renders, renderWith]
  exact bind_eq_ok.2 ⟨v, he, bind_eq_ok.2 ⟨s, hv, bind_eq_ok.2 ⟨(rest, env), h, rfl⟩⟩⟩

theorem Renders.embed (he : e.eval env = .ok v) (hv : embedded env v = .ok s)
    (h : Renders embedded env next rest) : Renders embedded env (.embed e next) (s ++ rest) := by
  rw [Renders, renderWith]
  exact bind_eq_ok.2 ⟨v, he, bind_eq_ok.2 ⟨s, hv, bind_eq_ok.2 ⟨(rest, env), h, rfl⟩⟩⟩

theorem Renders.branch {b : Bool} (he : e.eval env = .ok v) (hv : v.truth = .ok b)
    (hc : Renders embedded env (if b then yes else no) s) (h : Renders embedded env next rest) :
    Renders embedded env (.branch e yes no next) (s ++ rest) := by
  have hnext : ∀ x : Except Error (String × Env), x = .ok (s, env) →
      (x >>= fun p => renderWith embedded p.2 next >>= fun q => pure (p.1 ++ q.1, q.2)) =
        .ok (s ++ rest, env) := by
    rintro _ rfl
    exact bind_eq_ok.2 ⟨(s, env), rfl, bind_eq_ok.2 ⟨(rest, env), h, rfl⟩⟩
  rw [Renders, renderWith]
  refine bind_eq_ok.2 ⟨v, he, bind_eq_ok.2 ⟨b, hv, ?_⟩⟩
  cases b with
  | true => exact hnext _ hc
  | false => exact hnext _ hc

theorem Renders.branch_last {b : Bool} (he : e.eval env = .ok v) (hv : v.truth = .ok b)
    (hc : Renders embedded env (if b then yes else no) s) :
    Renders embedded env (.branch e yes no .done) s := by
  have h := hc.branch he hv .done
  rwa [String.append_empty] at h

theorem Renders.each {α : Type} {name : String} {xs : List α} {value : α → Value} {text : α → String}
    (he : e.eval env = .ok v) (hv : v.items = .ok (xs.map value))
    (hb : ∀ x ∈ xs, Renders embedded ((name, value x) :: env) body (text x))
    (h : Renders embedded env next rest) :
    Renders embedded env (.each name e false body .done next) (String.join (xs.map text) ++ rest) := by
  have hturns : ((xs.map value).zipIdx.mapM fun turn =>
      (renderWith embedded (bindTurn name false (xs.map value).length turn env) body).map (·.1)) =
        .ok (xs.map text) := by
    have hmap : xs.zipIdx.map (text ∘ Prod.fst) = xs.map text := by
      rw [← List.map_map, List.zipIdx_map_fst]
    rw [List.zipIdx_map, List.mapM_map, ← hmap]
    refine mapM_eq_ok fun turn ht => ?_
    have hx := hb turn.1 (List.fst_mem_of_mem_zipIdx ht)
    rw [Renders] at hx
    change (renderWith embedded ((name, value turn.1) :: env) body).map (·.1) = _
    rw [hx]
    rfl
  have hrest : (renderWith embedded env next >>= fun q =>
      pure (String.join (xs.map text) ++ "" ++ q.1, q.2)) =
        .ok (String.join (xs.map text) ++ rest, env) := by
    rw [String.append_empty]
    exact bind_eq_ok.2 ⟨(rest, env), h, rfl⟩
  rw [Renders, renderWith]
  refine bind_eq_ok.2 ⟨v, he, bind_eq_ok.2 ⟨_, hv, bind_eq_ok.2 ⟨_, hturns, ?_⟩⟩⟩
  -- Without items the loop would print its other part, which is empty here.
  cases (xs.map value).isEmpty with
  | true => exact hrest
  | false => exact hrest

def Fails (embedded : Env → Value → Except Error String) (env : Env) (t : Template) (err : Error) : Prop :=
  renderWith embedded env t = .error err

variable {err : Error}

theorem Fails.text (h : Fails embedded env next err) (s : List Char) : Fails embedded env (.text s next) err := by
  rw [Fails, renderWith]
  exact bind_eq_error.2 (.inl h)

theorem Fails.output (h : Fails embedded env next err) (he : e.eval env = .ok v) (hv : v.print = .ok s) :
    Fails embedded env (.output e next) err := by
  rw [Fails, renderWith]
  exact bind_eq_error.2 (.inr ⟨v, he, bind_eq_error.2 (.inr ⟨s, hv, bind_eq_error.2 (.inl h)⟩)⟩)

theorem fails_of_print (he : e.eval env = .ok v) (hv : v.print = .error err) :
    Fails embedded env (.output e next) err := by
  rw [Fails, renderWith]
  exact bind_eq_error.2 (.inr ⟨v, he, bind_eq_error.2 (.inl hv)⟩)

end RpcBindings.Template
