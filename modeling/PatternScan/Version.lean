namespace PatternScan

def versionText : String := "kittscan v0.1.0"

end PatternScan
