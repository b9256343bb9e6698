import OpenMadt.Agreement
import OpenMadt.Announcement
import OpenMadt.AvahiService
import OpenMadt.Backlight
import OpenMadt.Base64Buffers
import OpenMadt.Blinking
import OpenMadt.Clients
import OpenMadt.CommandSeparation
import OpenMadt.ConfigDocuments
import OpenMadt.ControlPasswords
import OpenMadt.ExitRequests
import OpenMadt.ExtraZone
import OpenMadt.FailedRequests
import OpenMadt.FramingConnections
import OpenMadt.IconLoader
import OpenMadt.LeaseTimes
import OpenMadt.PageSettings
import OpenMadt.Replies
import OpenMadt.Responses
import OpenMadt.Secrets
import OpenMadt.ServiceNames
import OpenMadt.SettingsPatches
import OpenMadt.ShortcutPopup
import OpenMadt.Shortcuts
import OpenMadt.Shutdown
import OpenMadt.SoundFlags
import OpenMadt.StoreSessions
import OpenMadt.TabFaces
import OpenMadt.TabUrls
import OpenMadt.Timers
import OpenMadt.Transport
import OpenMadt.Volume
import OpenMadt.ZoneOrder
