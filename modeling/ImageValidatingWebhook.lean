import ImageValidatingWebhook.Basic
import ImageValidatingWebhook.Trust.NaturalOrder
import ImageValidatingWebhook.Trust.Metadata
import ImageValidatingWebhook.Trust.Signers
import ImageValidatingWebhook.Trust.Token
import ImageValidatingWebhook.Trust.ReadOnly
import ImageValidatingWebhook.Pods.Validator
import ImageValidatingWebhook.Pods.PullSecrets
import ImageValidatingWebhook.Pods.Verdict
import ImageValidatingWebhook.Pods.Idempotence
import ImageValidatingWebhook.Server.Docker
import ImageValidatingWebhook.Server.ImageInfo
import ImageValidatingWebhook.Server.IsValid
import ImageValidatingWebhook.Server.Commands
import ImageValidatingWebhook.Server.Admitted
import ImageValidatingWebhook.Server.Daemon
