import FinylDcp.Integrations
import FinylDcp.PaymentRoutes
import FinylDcp.WebhookQueue

/-!
# The webhooks of the payments hub

What each endpoint reads of a body, and the processor it is handed to. A body without the
fields an endpoint looks for is one with none of them.
-/
namespace FinylDcp

/-- The body of a delivery, by what its endpoint reads of it. -/
inductive WebhookBody
  | result (body : ResultBody)
  | stk (cb : StkCallback)
  | c2b (cb : C2BCallback)
  | noFields
  deriving DecidableEq, Repr

namespace WebhookBody

def asResult : WebhookBody → ResultBody
  | result body => body
  | _ => ⟨none, none, "None", none⟩

def asStk : WebhookBody → StkCallback
  | stk cb => cb
  | _ => ⟨none, "None", none, none, none, none⟩

def asC2b : WebhookBody → Except Failure C2BCallback
  | c2b cb => .ok cb
  | _ => .error (.unresolved "unparseable C2B confirmation payload")

end WebhookBody

/-- The tenant of the transaction a callback found. -/
def tenantOfTxn (found : Option (ℕ × PaymentTransaction)) : Option ℕ := found.map (·.2.tenantId)

/-- The transaction an STK callback is about. -/
def findStkTxn (db : Db) (cb : StkCallback) : Option PaymentTransaction :=
  (Text.nonEmpty cb.checkoutRequestId).bind (fun checkoutId =>
    db.transactions.find? (fun t => t.type = .stkPush && t.mpesaRef = some checkoutId))

/-- `_PROCESSORS`. -/
def paymentProcessors (platform : Platform) : Processors Db WebhookBody where
  noBody := .noFields
  lookup
    | "b2c-result" => some (fun db body _ now =>
        (processB2cResult db body.asResult now).map (fun saved =>
          (saved, tenantOfTxn (findB2cTxn db body.asResult.conversationId
            body.asResult.originatorId))))
    | "b2c-timeout" => some (fun db body _ _ =>
        (processB2cTimeout db body.asResult).map (fun saved =>
          (saved, tenantOfTxn (findB2cTxn db body.asResult.conversationId
            body.asResult.originatorId))))
    | "stk-callback" => some (fun db body freshRef now =>
        (processStkCallback db body.asStk freshRef now).map (fun out =>
          (out.1, (findStkTxn db body.asStk).map (·.tenantId))))
    | "c2b-callback" => some (fun db body freshRef now => do
        let cb ← body.asC2b
        let tenantId ← c2bTenant db platform.shortcodeToTenant cb
        let out ← processC2bCallback db platform.shortcodeToTenant cb freshRef now
        return (out.1, some tenantId))
    | "reversal-result" => some (fun db body _ now =>
        (processReversalResult db body.asResult now).map (fun saved =>
          (saved, tenantOfTxn (findReversalTxn db body.asResult.conversationId
            body.asResult.originatorId))))
    | "reversal-timeout" => some (fun db body _ _ =>
        (processReversalTimeout db body.asResult).map (fun saved =>
          (saved, tenantOfTxn (findReversalTxn db body.asResult.conversationId
            body.asResult.originatorId))))
    | _ => none

end FinylDcp
