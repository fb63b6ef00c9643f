/-
SchemaDoc.Text.Names.From01000 — the names of the characters from U+1000 on.

The block holds the scripts of Asia, Africa and America, and further Latin and Greek.
How it is written is said where it is read.
-/

namespace SchemaDoc.Text.Names

/-- The names from U+1000 on. -/
def from01000 : String :=
  "aMYANMAR LETTER KA,bHA,dGA,bHA,dNGA,dCA,bHA,dJA,bHA,dNYA,cNYA,eTTA,bHA,eDDA,bHA,eNNA,dTA,bHA,dDA
bHA,dNA,cPA,bHA,dBA,bHA,dMA,cYA,cRA,cLA,cWA,cSA,cHA,cLLA,dA,bSHAN A,gI,aI,cU,aU,cE,bMON E,fO,bAU
jVOWEL SIGN TALL AA,hAA,cI,aI,cU,aU,cE,bAI,cMON II,cO,fE ABOVE,sSIGN ANUSVARA,iDOT BELOW,jVISARGA
fRAMA,gASAT,jCONSONANT SIGN MEDIAL YA,cRA,cWA,cHA,yLETTER GREAT SA,pDIGIT ZERO,eONE,dTWO,cHREE
fFOUR,dIVE,eSIX,cEVEN,fEIGHT,fNINE,kSIGN LITTLE SECTION,oSECTION,lYMBOL LOCATIVE,iCOMPLETED
jAFOREMENTIONED,oGENITIVE,pLETTER SHA,cSA,dVOCALIC R,aR,cL,aL,rVOWEL SIGN VOCALIC R,aR,cL,aL
vLETTER MON NGA,dJHA,dBBA,bE,oCONSONANT SIGN MON MEDIAL NA,cMA,cLA,zdLETTER SGAW KAREN SHA
vVOWEL SIGN SGAW KAREN EU,yTONE MARK SGAW KAREN HATHI,fKE PHO,zcLETTER WESTERN PWO KAREN THA,dPWA
zdVOWEL SIGN WESTERN PWO KAREN EU,cUE,zgSIGN WESTERN PWO KAREN TONE-1,b2,b3,b4,b5
zeLETTER EASTERN PWO KAREN NNA,dYWA,dGHWA,zeVOWEL SIGN GEBA KAREN I,mKAYAH OE,cU,bEE
tLETTER SHAN KA,bHA,dGA,cCA,cZA,cNYA,dDA,cNA,cPHA,dFA,cBA,cTHA,dHA,oCONSONANT SIGN SHAN MEDIAL WA
zeVOWEL SIGN SHAN AA,cE,a ABOVE,hFINAL Y,xSIGN SHAN TONE-2,b3,b5,b6,gCOUNCIL TONE-2,b3
gEMPHATIC TONE,zgLETTER RUMAI PALAUNG FA,xSIGN RUMAI PALAUNG TONE-5,yHAN DIGIT ZERO,eONE,dTWO,cHREE
fFOUR,dIVE,eSIX,cEVEN,fEIGHT,fNINE,oIGN KHAMTI TONE-1,b3,sVOWEL SIGN AITON A,aI,tSYMBOL SHAN ONE
dEXCLAMATION,zgGEORGIAN CAPITAL LETTER AN,cBAN,dGAN,dDON,dEN,cVIN,dZEN,dTAN,dIN,cKAN,dLAS,dMAN,dNAR
dON,cPAR,dZHAR,eRAE,dSAN,dTAR,dUN,cPHAR,eKHAR,eGHAN,eQAR,dSHIN,eCHIN,dAN,dJIL,dCIL,cHAR,eXAN,dJHAN
eHAE,cE,bIE,dWE,cHAR,cOE,+1,dYN,+5,cAEN,+2,sLETTER AN,cBAN,dGAN,dDON,dEN,cVIN,dZEN,dTAN,dIN,cKAN
dLAS,dMAN,dNAR,dON,cPAR,dZHAR,eRAE,dSAN,dTAR,dUN,cPHAR,eKHAR,eGHAN,eQAR,dSHIN,eCHIN,dAN,dJIL,dCIL
cHAR,eXAN,dJHAN,eHAE,cE,bIE,dWE,cHAR,cOE,dFI,cYN,cELIFI,fTURNED GAN,kAIN,kPARAGRAPH SEPARATOR
zdMODIFIER LETTER GEORGIAN NAR,zdGEORGIAN LETTER AEN,dHARD SIGN,jLABIAL SIGN
zcHANGUL CHOSEONG KIYEOK,gSSANGKIYEOK,lNIEUN,fTIKEUT,gSSANGTIKEUT,lRIEUL,fMIEUM,fPIEUP,fSSANGPIEUP
jIOS,dSANGSIOS,jIEUNG,fCIEUC,fSSANGCIEUC,kCHIEUCH,hKHIEUKH,hTHIEUTH,hPHIEUPH,hHIEUH,fNIEUN-KIYEOK
mSSANGNIEUN,kNIEUN-TIKEUT,gPIEUP,lTIKEUT-KIYEOK,nRIEUL-NIEUN,lSSANGRIEUL,kRIEUL-HIEUH
lKAPYEOUNRIEUL,nMIEUM-PIEUP,lKAPYEOUNMIEUM,nPIEUP-KIYEOK,gNIEUN,fTIKEUT,gSIOS,a-KIYEOK,gTIKEUT
gPIEUP,jSANGSIOS,iIOS-CIEUC,kCIEUC,eHIEUCH,hTHIEUTH,hPHIEUPH,nKAPYEOUNPIEUP,fSSANGPIEUP
sSIOS-KIYEOK,gNIEUN,fTIKEUT,gRIEUL,fMIEUM,fPIEUP,a-KIYEOK,mSSANGSIOS,jIEUNG,fCIEUC,eHIEUCH,hKHIEUKH
hTHIEUTH,hPHIEUPH,hHIEUH,kCHITUEUMSIOS,dSANGSIOS,qEONGCHIEUMSIOS,dSANGSIOS,uPANSIOS,hIEUNG-KIYEOK
gTIKEUT,gMIEUM,fPIEUP,fSIOS,ePANSIOS,nSSANGIEUNG,kIEUNG-CIEUC,eHIEUCH,hTHIEUTH,hPHIEUPH,nYESIEUNG
iCIEUC-IEUNG,kHITUEUMCIEUC,fSSANGCIEUC,rEONGCHIEUMCIEUC,fSSANGCIEUC,uHIEUCH-KHIEUKH,hHIEUH
kTUEUMCHIEUCH,oEONGCHIEUMCHIEUCH,sPHIEUPH-PIEUP,nKAPYEOUNPHIEUPH,pSSANGHIEUH,kYEORINHIEUH
lKIYEOK-TIKEUT,nNIEUN-SIOS,eCIEUC,fHIEUH,lTIKEUT-RIEUL,mFILLER,pJUNGSEONG FILLER,gA,aE,cYA,aE,dEO,b
bYEO,b,cO,bWA,aE,dOE,cYO,cU,bWEO,b,bI,cYU,cEU,cYI,cI,bA-O,bU,dYA-O,bYO,fEO-O,bU,bEU,fYEO-O,bU,fO-EO
b,bYE,cO,bU,dYO-YA,aE,cEO,dO,bI,eU-A,aE,cEO-EU,fYE,cU,dYU-A,bEO,b,bYEO,b,cU,bI,eEU-U,bEU,fYI-U,eI-A
bYA,cO,bU,bEU,cARAEA,hARAEA,a-EO,cU,bI,hSSANGARAEA,kA-EU,eYA-U,dEO-YA,gO-YA,aE,oONGSEONG KIYEOK
gSSANGKIYEOK,lKIYEOK-SIOS,lNIEUN,a-CIEUC,fHIEUH,lTIKEUT,gRIEUL,a-KIYEOK,gMIEUM,fPIEUP,fSIOS
eTHIEUTH,hPHIEUPH,hHIEUH,lMIEUM,fPIEUP,a-SIOS,kSIOS,dSANGSIOS,jIEUNG,fCIEUC,eHIEUCH,hKHIEUKH
hTHIEUTH,hPHIEUPH,hHIEUH,fKIYEOK-RIEUL,fSIOS-KIYEOK,sNIEUN-KIYEOK,gTIKEUT,gSIOS,ePANSIOS,hTHIEUTH
nTIKEUT-KIYEOK,gRIEUL,mRIEUL-KIYEOK-SIOS,lNIEUN,fTIKEUT,a-HIEUH,sSSANGRIEUL,kRIEUL-MIEUM-KIYEOK
gSIOS,kPIEUP-SIOS,eHIEUH,lKAPYEOUNPIEUP,nSSANGSIOS,jPANSIOS,hKHIEUKH,hYEORINHIEUH,rMIEUM-KIYEOK
gRIEUL,fPIEUP,fSIOS,dSANGSIOS,jPANSIOS,hCHIEUCH,hHIEUH,lKAPYEOUNMIEUM,nPIEUP-RIEUL,fPHIEUPH,hHIEUH
lKAPYEOUNPIEUP,nSIOS-KIYEOK,gTIKEUT,gRIEUL,fPIEUP,kPANSIOS,hIEUNG-KIYEOK,gSSANGKIYEOK,rSSANGIEUNG
kIEUNG-KHIEUKH,nYESIEUNG,a-SIOS,ePANSIOS,qPHIEUPH-PIEUP,nKAPYEOUNPHIEUPH,pHIEUH-NIEUN,fRIEUL,fMIEUM
fPIEUP,lYEORINHIEUH,lKIYEOK-NIEUN,fPIEUP,fCHIEUCH,hKHIEUKH,hHIEUH,mSSANGNIEUN
zcETHIOPIC SYLLABLE HA,bU,bI,bAA,cEE,b,bO,aA,dLA,bU,bI,bAA,cEE,b,bO,bWA,dHHA,bU,bI,bAA,cEE,b,bO,bWA
eMA,bU,bI,bAA,cEE,b,bO,bWA,dSZA,bU,bI,bAA,cEE,b,bO,bWA,eRA,bU,bI,bAA,cEE,b,bO,bWA,dSA,bU,bI,bAA,cEE
b,bO,bWA,cHA,bU,bI,bAA,cEE,b,bO,bWA,eQA,bU,bI,bAA,cEE,b,bO,aA,cWA,+1,bI,bAA,cEE,b,+2,cHA,bU,bI,bAA
cEE,b,bO,+1,bWA,+1,bI,bAA,cEE,b,+2,eBA,bU,bI,bAA,cEE,b,bO,bWA,dVA,bU,bI,bAA,cEE,b,bO,bWA,dTA,bU,bI
bAA,cEE,b,bO,bWA,dCA,bU,bI,bAA,cEE,b,bO,bWA,dXA,bU,bI,bAA,cEE,b,bO,aA,cWA,+1,bI,bAA,cEE,b,+2,dNA,bU
bI,bAA,cEE,b,bO,bWA,cYA,bU,bI,bAA,cEE,b,bO,bWA,eGLOTTAL A,bU,bI,bAA,cEE,b,bO,bWA,kKA,bU,bI,bAA,cEE
b,bO,aA,cWA,+1,bI,bAA,cEE,b,+2,cXA,bU,bI,bAA,cEE,b,bO,+1,bWA,+1,bI,bAA,cEE,b,+2,eWA,bU,bI,bAA,cEE,b
bO,aA,dPHARYNGEAL A,bU,bI,bAA,cEE,b,bO,+1,mZA,bU,bI,bAA,cEE,b,bO,bWA,cHA,bU,bI,bAA,cEE,b,bO,bWA,eYA
bU,bI,bAA,cEE,b,bO,aA,dDA,bU,bI,bAA,cEE,b,bO,bWA,cDA,bU,bI,bAA,cEE,b,bO,bWA,eJA,bU,bI,bAA,cEE,b,bO
bWA,dGA,bU,bI,bAA,cEE,b,bO,aA,cWA,+1,bI,bAA,cEE,b,+2,cGA,bU,bI,bAA,cEE,b,bO,bWAA,fTHA,bU,bI,bAA,cEE
b,bO,bWA,eCHA,bU,bI,bAA,cEE,b,bO,bWA,ePHA,bU,bI,bAA,cEE,b,bO,bWA,eTSA,bU,bI,bAA,cEE,b,bO,bWA,dZA,bU
bI,bAA,cEE,b,bO,aA,eFA,bU,bI,bAA,cEE,b,bO,bWA,dPA,bU,bI,bAA,cEE,b,bO,bWA,dRYA,dMYA,dFYA,+2
mCOMBINING GEMINATION AND VOWEL LENGTH MARK,zhVOWEL LENGTH MARK,rGEMINATION MARK,zaSECTION MARK
mWORDSPACE,jFULL STOP,jCOMMA,fSEMICOLON,jCOLON,fPREFACE COLON,nQUESTION MARK,nPARAGRAPH SEPARATOR
tDIGIT ONE,dTWO,cHREE,fFOUR,dIVE,eSIX,cEVEN,fEIGHT,fNINE,kNUMBER TEN,cWENTY,fHIRTY,gFORTY,eIFTY
fSIXTY,eEVENTY,hEIGHTY,gNINETY,gHUNDRED,hTEN THOUSAND,+3,tSYLLABLE SEBATBEIT MWA,nMWI,bEE,b
dSEBATBEIT BWA,nBWI,bEE,b,dSEBATBEIT FWA,nFWI,bEE,b,dSEBATBEIT PWA,nPWI,bEE,b,mTONAL MARK YIZET
fDERET,fRIKRIK,gSHORT RIKRIK,mDIFAT,fKENAT,fCHIRET,gHIDET,fDERET-HIDET,lKURT,+6,yCHEROKEE LETTER A
bE,bI,bO,bU,bV,bGA,cKA,cGE,bI,bO,bU,bV,cHA,bE,bI,bO,bU,bV,cLA,bE,bI,bO,bU,bV,cMA,bE,bI,bO,bU,cNA
cHNA,dNAH,cE,bI,bO,bU,bV,cQUA,bE,bI,bO,bU,bV,dSA,b,aE,bI,bO,bU,bV,cDA,cTA,cDE,cTE,cDI,cTI,cDO,bU,bV
bLA,dTLA,bE,bI,bO,bU,bV,cSA,bE,bI,bO,bU,bV,dWA,bE,bI,bO,bU,bV,cYA,bE,bI,bO,bU,bV,cMV,+2
jSMALL LETTER YE,bI,bO,bU,bV,cMV,+2,xANADIAN SYLLABICS HYPHEN,gE,bAAI,dI,aI,cO,aO,cY-CREE OO
jCARRIER EE,cI,jA,aA,cWE,aST-CREE WE,lI,bEST-CREE WI,lII,cEST-CREE WII,mO,bEST-CREE WO,lOO
cEST-CREE WOO,nNASKAPI WOO,lWA,bEST-CREE WA,lAA,cEST-CREE WAA,nNASKAPI WAA,lAI,cY-CREE W
iGLOTTAL STOP,mFINAL ACUTE,fGRAVE,fBOTTOM HALF RING,qTOP HALF RING,nRIGHT HALF RING,nNG
eDOUBLE ACUTE,fSHORT VERTICAL STROKES,zeMIDDLE DOT,kSHORT HORIZONTAL STROKE,xPLUS,eDOWN TACK,pEN
cIN,cON,cAN,cPE,bAAI,dI,aI,cO,aO,dY-CREE POO,kCARRIER HEE,cI,kPA,aA,cWE,dWEST-CREE PWE,nPWI
dWEST-CREE PWI,nPWII,eWEST-CREE PWII,oPWO,dWEST-CREE PWO,nPWOO,eWEST-CREE PWOO,oPWA,dWEST-CREE PWA
nPWAA,eWEST-CREE PWAA,oY-CREE PWAA,lP,bWEST-CREE P,lCARRIER H,jTE,bAAI,dI,aI,cO,aO,dY-CREE TOO
kCARRIER DEE,cI,kTA,aA,cWE,dWEST-CREE TWE,nTWI,dWEST-CREE TWI,nTWII,eWEST-CREE TWII,oTWO
dWEST-CREE TWO,nTWOO,eWEST-CREE TWOO,oTWA,dWEST-CREE TWA,nTWAA,eWEST-CREE TWAA,oNASKAPI TWAA,mT,aTE
bI,bO,bA,dKE,bAAI,dI,aI,cO,aO,dY-CREE KOO,kKA,aA,cWE,dWEST-CREE KWE,nKWI,dWEST-CREE KWI,nKWII
eWEST-CREE KWII,oKWO,dWEST-CREE KWO,nKWOO,eWEST-CREE KWOO,oKWA,dWEST-CREE KWA,nKWAA,eWEST-CREE KWAA
oNASKAPI KWAA,mK,aW,cSOUTH-SLAVEY KEH,cIH,cOH,cAH,qCE,bAAI,dI,aI,cO,aO,dY-CREE COO,kCA,aA,cWE
dWEST-CREE CWE,nCWI,dWEST-CREE CWI,nCWII,eWEST-CREE CWII,oCWO,dWEST-CREE CWO,nCWOO,eWEST-CREE CWOO
oCWA,dWEST-CREE CWA,nCWAA,eWEST-CREE CWAA,oNASKAPI CWAA,mC,bSAYISI TH,jME,bAAI,dI,aI,cO,aO
dY-CREE MOO,kMA,aA,cWE,dWEST-CREE MWE,nMWI,dWEST-CREE MWI,nMWII,eWEST-CREE MWII,oMWO,dWEST-CREE MWO
nMWOO,eWEST-CREE MWOO,oMWA,dWEST-CREE MWA,nMWAA,eWEST-CREE MWAA,oNASKAPI MWAA,mM,bWEST-CREE M,lMH
cATHAPASCAN M,mSAYISI M,iNE,bAAI,dI,aI,cO,aO,dY-CREE NOO,kNA,aA,cWE,dWEST-CREE NWE,nNWA
dWEST-CREE NWA,nNWAA,eWEST-CREE NWAA,oNASKAPI NWAA,l,bCARRIER NG,kNH,cLE,bAAI,dI,aI,cO,aO
dY-CREE LOO,kLA,aA,cWE,dWEST-CREE LWE,nLWI,dWEST-CREE LWI,nLWII,eWEST-CREE LWII,oLWO,dWEST-CREE LWO
nLWOO,eWEST-CREE LWOO,oLWA,dWEST-CREE LWA,nLWAA,eWEST-CREE LWAA,oL,bWEST-CREE L,lMEDIAL L,iSE,bAAI
dI,aI,cO,aO,dY-CREE SOO,kSA,aA,cWE,dWEST-CREE SWE,nSWI,dWEST-CREE SWI,nSWII,eWEST-CREE SWII,oSWO
dWEST-CREE SWO,nSWOO,eWEST-CREE SWOO,oSWA,dWEST-CREE SWA,nSWAA,eWEST-CREE SWAA,oNASKAPI SWAA,mS
bATHAPASCAN S,mSW,cBLACKFOOT S,lMOOSE-CREE SK,nNASKAPI SKW,c-W,cPWA,dTWA,dKWA,dCWA,mSHE,bI,aI,cO,aO
cA,aA,cWE,eWEST-CREE SHWE,oSHWI,eWEST-CREE SHWI,oSHWII,fWEST-CREE SHWII,pSHWO,eWEST-CREE SHWO
oSHWOO,fWEST-CREE SHWOO,pSHWA,eWEST-CREE SHWA,oSHWAA,fWEST-CREE SHWAA,pSH,cYE,bAAI,dI,aI,cO,aO
c-CREE YOO,jA,aA,cWE,dWEST-CREE YWE,nYWI,dWEST-CREE YWI,nYWII,eWEST-CREE YWII,oYWO,dWEST-CREE YWO
nYWOO,eWEST-CREE YWOO,oYWA,dWEST-CREE YWA,nYWAA,eWEST-CREE YWAA,oNASKAPI YWAA,mY,bBIBLE-CREE Y
mWEST-CREE Y,lSAYISI YI,jRE,b-CREE RE,jWEST-CREE LE,mRAAI,dI,aI,cO,aO,dWEST-CREE LO,mRA,aA
dWEST-CREE LA,mRWAA,eWEST-CREE RWAA,oR,bWEST-CREE R,lMEDIAL R,iFE,bAAI,dI,aI,cO,aO,cA,aA,cWAA
eWEST-CREE FWAA,oF,bTHE,dN-CREE THE,kTHI,dN-CREE THI,kTHII,eN-CREE THII,lTHO,aO,cA,aA,cWAA
fWEST-CREE THWAA,pTH,bTHE,bI,bO,bA,b,cYE,bI,bO,bA,dNUNAVIK HE,bI,aI,cO,aO,cA,aA,c,eUT H,jHK,cQAAI
dI,aI,cO,aO,cA,aA,c,bTLHE,bI,bO,bA,eWEST-CREE RE,bI,bO,bA,mNGAAI,dI,aI,cO,aO,cA,aA,c,bNG
dSAYISI SHE,bI,bO,bA,kWOODS-CREE THE,bI,bO,bA,b,nLHI,aI,cO,aO,cA,aA,c,cTH-CREE THE,bI,aI,cO,aO,cA
aA,c,kAIVILIK B,jBLACKFOOT E,bI,bO,bA,bWE,bI,bO,bA,cNE,bI,bO,bA,cKE,bI,bO,bA,mSAYISI HE,bI,bO,bA
jCARRIER GHU,bO,bE,aE,cI,bA,dRU,bO,bE,aE,cI,bA,cWU,bO,bE,aE,cI,bA,cHWU,bO,bE,aE,cI,bA,dTHU,bO,bE,aE
cI,bA,cTU,bO,bE,aE,cI,bA,dPU,bO,bE,aE,cI,bA,b,bGU,bO,bE,aE,cI,bA,cKHU,bO,bE,aE,cI,bA,cKU,bO,bE,aE
cI,bA,b,cNU,bO,bE,aE,cI,bA,cMU,bO,bE,aE,cI,bA,cYU,bO,bE,aE,cI,bA,cJU,kSAYISI JU,jCARRIER JO,bE,aE
cI,kSAYISI JI,jCARRIER JA,bJU,bO,bE,aE,cI,bA,dLU,bO,bE,aE,cI,bA,cDLU,bO,bE,aE,cI,bA,dLHU,bO,bE,aE
cI,bA,dTLHU,bO,bE,aE,cI,bA,cU,bO,bE,aE,cI,bA,dZU,bO,bE,aE,cI,bA,b,bINITIAL Z,jDZU,bO,bE,aE,cI,bA
dSU,bO,bE,aE,cI,bA,bHU,bO,bE,aE,cI,bA,b,cTSU,bO,bE,aE,cI,bA,dCHU,bO,bE,aE,cI,bA,dTTSU,bO,bE,aE,cI
bA,lHI SIGN,iFULL STOP,jQAI,dNGAI,dNGI,aI,cO,aO,cA,aA,fWOODS-CREE THWEE,cI,aI,cO,aO,cA,aA,fFINAL TH
tBLACKFOOT W,zfOGHAM SPACE MARK,kLETTER BEITH,fLUIS,eFEARN,fSAIL,eNION,eUATH,eDAIR,eTINNE,fCOLL
dEIRT,fMUIN,eGORT,eNGEADAL,hSTRAIF,gRUIS,eAILM,eONN,dUR,cEADHADH,hIODHADH,hEABHADH,hOR,cUILLEANN
iIFIN,eEAMHANCHOLL,lPEITH,mFEATHER MARK,mREVERSED FEATHER MARK,+3,zcRUNIC LETTER FEHU FEOH FE F,oV
bURUZ UR U,jYR,b,bW,bTHURISAZ THURS THORN,uETH,dANSUZ A,hOS O,eAC A,dESC,eLONG-BRANCH-OSS O
rSHORT-TWIG-OSS O,qO,aE,bN,cRAIDO RAD REID R,qKAUNA,fCEN,dKAUN K,gG,bENG,dGEBO GYFU G,kAR
dWUNJO WYNN W,mHAGLAZ H,gEGL H,hLONG-BRANCH-HAGALL H,uSHORT-TWIG-HAGALL H,tNAUDIZ NYD NAUD N
rSHORT-TWIG-NAUD N,rDOTTED-N,iISAZ IS ISS I,nE,bJERAN J,hGER,dLONG-BRANCH-AR AE,rSHORT-TWIG-AR A
pIWAZ EOH,iPERTHO PEORTH P,pALGIZ EOLHX,lSOWILO S,hIGEL LONG-BRANCH-SOL S,wHORT-TWIG-SOL S,qC,bZ
bTIWAZ TIR TYR T,pSHORT-TWIG-TYR T,qD,bBERKANAN BEORC BJARKAN B,ySHORT-TWIG-BJARKAN B,uDOTTED-P
iOPEN-P,gEHWAZ EH E,kMANNAZ MAN M,mLONG-BRANCH-MADR M,sSHORT-TWIG-MADR M,rLAUKAZ LAGU LOGR L
sDOTTED-L,iINGWAZ,d,dDAGAZ DAEG D,mOTHALAN ETHEL O,pEAR,dIOR,dCWEORTH,gALC,dEALC,fSTAN
eLONG-BRANCH-YR,oSHORT-TWIG-YR,nICELANDIC-YR,mQ,bX,iSINGLE PUNCTUATION,sMULTIPLE PUNCTUATION
uCROSS PUNCTUATION,rARLAUG SYMBOL,nTVIMADUR SYMBOL,pBELGTHOR SYMBOL,pLETTER K,bSH,cOO
cFRANKS CASKET OS,cIS,cEH,cAC,bESC,+7,zgTAGALOG LETTER A,bI,bU,bKA,cGA,cNGA,dTA,cDA,cNA,cPA,cBA,cMA
cYA,cRA,cLA,cWA,cSA,cHA,jVOWEL SIGN I,bU,mSIGN VIRAMA,gPAMUDPOD,+9,nLETTER ARCHAIC RA
zaHANUNOO LETTER A,bI,bU,bKA,cGA,cNGA,dTA,cDA,cNA,cPA,cBA,cMA,cYA,cRA,cLA,cWA,cSA,cHA,jVOWEL SIGN I
bU,mSIGN PAMUDPOD,vPHILIPPINE SINGLE PUNCTUATION,sDOUBLE PUNCTUATION,+9,zeBUHID LETTER A,bI,bU,bKA
cGA,cNGA,dTA,cDA,cNA,cPA,cBA,cMA,cYA,cRA,cLA,cWA,cSA,cHA,jVOWEL SIGN I,bU,+12,sTAGBANWA LETTER A,bI
bU,bKA,cGA,cNGA,dTA,cDA,cNA,cPA,cBA,cMA,cYA,+1,cLA,cWA,cSA,+1,jVOWEL SIGN I,bU,+12,vKHMER LETTER KA
bHA,cO,bHO,dNGO,dCA,bHA,cO,bHO,dNYO,dDA,cTTHA,eDO,cTTHO,eNNO,dTA,bHA,cO,bHO,dNO,cBA,cPHA,cO,bHO,dMO
cYO,cRO,cLO,cVO,cSHA,cSO,cA,cHA,cLA,cQA,jINDEPENDENT VOWEL QAQ,bA,cI,aI,cU,aK,bU,aV,eRY,aY,dLY,aY
dQE,bAI,cOO TYPE ONE,dTWO,lAU,vVOWEL INHERENT AQ,bA,lSIGN AA,cI,aI,cY,aY,cU,aU,bA,cOE,cYA,cIE,cE
bAE,bI,cOO,cAU,nSIGN NIKAHIT,hREAHMUK,hYUUKALEAPINTU,nMUUSIKATOAN,lTRIISAP,hBANTOC,gROBAT
fTOANDAKHIAT,lKAKABAT,hAHSDA,fSAMYOK SANNYA,nVIRIAM,gCOENG,fBATHAMASAT,kKHAN,eBARIYOOSAN
kCAMNUC PII KUUH,pLEK TOO,hBEYYAL,gPHNAEK MUAN,lKOOMUUT,mCURRENCY SYMBOL RIEL,uSIGN AVAKRAHASANYA
mTTHACAN,+2,nDIGIT ZERO,eONE,dTWO,cHREE,fFOUR,dIVE,eSIX,cEVEN,fEIGHT,fNINE,+6,kSYMBOL LEK ATTAK SON
dMUOY,ePII,dBEI,cUON,ePRAM,a-MUOY,ePII,dBEI,cUON,+6,zhMONGOLIAN BIRGA,fELLIPSIS,iCOMMA,fFULL STOP
jCOLON,fFOUR DOTS,jTODO SOFT HYPHEN,qSIBE SYLLABLE BOUNDARY MARKER,zeMANCHU COMMA,fFULL STOP
qNIRUGU,gFREE VARIATION SELECTOR ONE,dTWO,cHREE,zeVOWEL SEPARATOR,pFREE VARIATION SELECTOR FOUR
zdDIGIT ZERO,eONE,dTWO,cHREE,fFOUR,dIVE,eSIX,cEVEN,fEIGHT,fNINE,+6,kLETTER A,bE,bI,bO,bU,bOE,cUE
cEE,cNA,cANG,dBA,cPA,cQA,cGA,cMA,cLA,cSA,bHA,dTA,cDA,cCHA,dJA,cYA,cRA,cWA,cFA,cKA,bHA,dTSA,dZA,cHAA
dZRA,dLHA,dZHI,dCHI,dTODO LONG VOWEL SIGN,pE,bI,bO,bU,bOE,cUE,cANG,dBA,cPA,cQA,cGA,cMA,cTA,cDA,cCHA
dJA,cTSA,dYA,cWA,cKA,cGAA,dHAA,dJIA,dNIA,dDZA,iSIBE E,bI,aY,cUE,b,bANG,dKA,cGA,cHA,cPA,cSHA,dTA,cDA
cJA,cFA,cGAA,dHAA,dTSA,dZA,cRAA,dCHA,dZHA,iMANCHU I,bKA,cRA,cFA,cZHA,kCHA WITH TWO DOTS,+7
rALI GALI ANUSVARA ONE,mVISARGA ONE,lDAMARU,gUBADAMA,hINVERTED UBADAMA,qBALUDA,gTHREE BALUDA,mA,bI
bKA,cNGA,dCA,cTTA,bHA,eDDA,dNNA,dTA,cDA,cPA,bHA,dSSA,dZHA,cA,cAH,lTODO ALI GALI TA,cZHA
rMANCHU ALI GALI GHA,dNGA,dCA,cJHA,dTTA,dDDHA,eTA,cDHA,dSSA,dCYA,dZHA,cA,sALI GALI HALF U,bYA
qMANCHU ALI GALI BHA,tALI GALI DAGALGA,qMANCHU ALI GALI LHA,+5,zlCANADIAN SYLLABICS OY,cAY,bAY,dWAY
dPOY,cAY,cWOY,eTAY,dKAY,cWAY,eMAY,dNOY,cAY,dLAY,dSOY,cAY,cHOY,cAY,cWOY,fYOY,cAY,dRAY,dNWI
dOJIBWAY NWI,lNWII,eOJIBWAY NWII,mNWO,dOJIBWAY NWO,lNWOO,eOJIBWAY NWOO,mRWEE,cI,aI,cO,aO,cA
dOJIBWAY P,bT,bK,bC,bM,bN,bS,aH,kEASTERN W,jWESTERN W,jFINAL SMALL RING,kRAISED DOT,qR-CREE RWE
kWEST-CREE LOO,cAA,nTHWE,bA,dTHWE,cOO,cAA,eLHWE,cOO,fSAYISI SHWE,cOO,eHOO,kCARRIER GWU,dDENE GEE
iGAA,cWA,lSAYISI JUU,kCARRIER JWA,lBEAVER DENE L,bR,nCARRIER DENTAL S,+10
zkLIMBU VOWEL-CARRIER LETTER,uLETTER KA,bHA,dGA,bHA,dNGA,dCA,bHA,dJA,bHA,dYAN,dTA,bHA,dDA,bHA,dNA
cPA,bHA,dBA,bHA,dMA,cYA,cRA,cLA,cWA,cSHA,cSA,cA,cHA,cGYAN,eTRA,+1,kVOWEL SIGN A,bI,bU,bEE,cAI,cOO
cAU,cE,bO,mSUBJOINED LETTER YA,cRA,cWA,+4,sMALL LETTER KA,cNGA,dANUSVARA,iTA,cNA,cPA,cMA,cRA,cLA
oIGN MUKPHRENG,jKEMPHRENG,jSA-I,+4,eLOO,+3,iEXCLAMATION MARK,qQUESTION MARK,nDIGIT ZERO,eONE,dTWO
cHREE,fFOUR,dIVE,eSIX,cEVEN,fEIGHT,fNINE,qTAI LE LETTER KA,cXA,cNGA,dTSA,dSA,cYA,cTA,bHA,dLA,cPA
bHA,dMA,cFA,cVA,cHA,cQA,cKHA,dTSHA,eNA,cA,bI,bEE,bH,cU,bOO,b,bUE,cE,bAUE,cI,+2,cTONE-2,b3,b4,b5,b6
+11,uNEW TAI LUE LETTER HIGH QA,hLOW QA,gHIGH KA,cXA,cNGA,iLOW KA,cXA,cNGA,hHIGH TSA,dSA,cYA
hLOW TSA,dSA,cYA,gHIGH TA,bHA,dNA,hLOW TA,bHA,dNA,gHIGH PA,bHA,dMA,hLOW PA,bHA,dMA,gHIGH FA,cVA,cLA
hLOW FA,cVA,cLA,gHIGH HA,cDA,cBA,hLOW HA,cDA,cBA,gHIGH KVA,dXVA,iLOW KVA,dXVA,hHIGH SUA,iLOW SUA,+4
oVOWEL SIGN VOWEL SHORTENER,pAA,cII,cU,aU,cE,bAE,cO,aA,cUE,cAY,bAY,dUY,cOY,bAY,dUEY,dIY
nLETTER FINAL V,bNG,b,bM,bK,bD,bB,oTONE MARK-1,b2,+6,lDIGIT ZERO,eONE,dTWO,cHREE,fFOUR,dIVE,eSIX
cEVEN,fEIGHT,fNINE,kTHAM DIGIT ONE,+3,oSIGN LAE,aV,vKHMER SYMBOL PATHAMASAT,kMUOY KOET,jPII KOET
iBEI KOET,hUON KOET,jPRAM KOET,f-MUOY KOET,jPII KOET,iBEI KOET,hUON KOET,oDAP KOET,f-MUOY KOET
jPII KOET,iBEI KOET,hUON KOET,jPRAM KOET,nTUTEYASAT,jMUOY ROC,iPII ROC,hBEI ROC,gUON ROC,iPRAM ROC
e-MUOY ROC,iPII ROC,hBEI ROC,gUON ROC,nDAP ROC,e-MUOY ROC,iPII ROC,hBEI ROC,gUON ROC,iPRAM ROC
zaBUGINESE LETTER KA,cGA,cNGA,bKA,ePA,cBA,cMA,bPA,dTA,cDA,cNA,bRA,dCA,cJA,cNYA,bCA,eYA,cRA,cLA,cVA
cSA,cA,bHA,jVOWEL SIGN I,bU,bE,bO,bAE,+2,nPALLAWA,hEND OF SECTION,xTAI THAM LETTER HIGH KA,bHA,cXA
iLOW KA,bXA,cHA,hNGA,dHIGH CA,bHA,iLOW CA,cSA,cCHA,hNYA,dRATA,eHIGH RATHA,kDA,cLOW RATHA,jRANA
eHIGH TA,bHA,iLOW TA,bHA,hNA,cBA,cHIGH PA,bHA,dFA,hLOW PA,cFA,cPHA,hMA,cLOW YA,gHIGH YA,hRA,bUE,dLA
bUE,dWA,cHIGH SHA,cSA,cA,cHA,hLLA,dA,bLOW HA,gI,aI,cU,aU,cEE,cOO,cLAE,dGREAT SA
pCONSONANT SIGN MEDIAL RA,cLA,jLA TANG LAI,zbSIGN MAI KANG LAI,rCONSONANT SIGN FINAL NGA,jLOW PA
gHIGH RATHA OR LOW PA,uMA,cBA,cSA,+1,rSIGN SAKOT,kVOWEL SIGN A,bMAI SAT,hAA,cTALL AA,hI,aI,cUE,bUE
c,aU,cO,aA BELOW,hY,cE,bAE,cOO,cAI,cTHAM AI,hOA ABOVE,tSIGN MAI KANG,iTONE-1,b2,gKHUEN TONE-3,b4,b5
mRA HAAM,hMAI SAM,hKHUEN-LUE KARAN,+2,uCOMBINING CRYPTOGRAMMIC DOT,zcHORA DIGIT ZERO,eONE,dTWO
cHREE,fFOUR,dIVE,eSIX,cEVEN,fEIGHT,fNINE,+6,pTHAM DIGIT ZERO,eONE,dTWO,cHREE,fFOUR,dIVE,eSIX,cEVEN
fEIGHT,fNINE,+6,pSIGN WIANG,aWAAK,jSAWAN,fKEOW,eHOY,dDOKMAI,gREVERSED ROTATED RANA,vMAI YAMOK,jKAAN
aKUU,hSATKAAN,aKUU,kHANG,eCAANG,+2,tCOMBINING DOUBLED CIRCUMFLEX ACCENT,yIAERESIS-RING,oINFINITY
iDOWNWARDS ARROW,pTRIPLE DOT,kX-X BELOW,jWIGGLY LINE BELOW,rOPEN MARK BELOW,pDOUBLE OPEN MARK BELOW
wLIGHT CENTRALIZATION STROKE BELOW,ziSTRONG CENTRALIZATION STROKE BELOW,zjPARENTHESES ABOVE
rDOUBLE PARENTHESES ABOVE,yPARENTHESES BELOW,fOVERLAY,tLATIN SMALL LETTER W BELOW,hTURNED W BELOW
zhEFT PARENTHESIS ABOVE LEFT,zcRIGHT PARENTHESIS ABOVE RIGHT,zeLEFT PARENTHESIS BELOW LEFT
zcRIGHT PARENTHESIS BELOW RIGHT,zeSQUARE BRACKETS ABOVE,vNUMBER SIGN ABOVE
rINVERTED DOUBLE ARCH ABOVE,zbPLUS SIGN ABOVE,pDOUBLE PLUS SIGN ABOVE,fBELOW,wTRIPLE ACUTE ACCENT
tLATIN SMALL LETTER INSULAR G,bR,bT,+49,znBALINESE SIGN ULU RICEM,fCANDRA,kCECEK,fSURANG,gBISAH
kLETTER AKARA,a TEDUNG,mIKARA,a TEDUNG,mUKARA,a TEDUNG,mRA REPA,a TEDUNG,oLA LENGA,a TEDUNG,pEKARA
fAIKARA,gOKARA,a TEDUNG,mKA,a MAHAPRANA,mGA,a GORA,hNGA,dCA,a LACA,hJA,a JERA,hNYA,dTA LATIK
fMURDA MAHAPRANA,sDA MURDA ALPAPRANA,jMAHAPRANA,sNA RAMBAT,jTA,a TAWA,hDA,a MADU,hNA,cPA,a KAPAL
iBA,a KEMBANG,kMA,cYA,cRA,cLA,cWA,cSA SAGA,cPA,f,cHA,jSIGN REREKAN,mVOWEL SIGN TEDUNG,gULU,a SARI
iSUKU,a ILUT,jRA REPA,a TEDUNG,oLA LENGA,a TEDUNG,pTALING,a REPA,eTEDUNG,gREPA TEDUNG,sPEPET
a TEDUNG,xADEG ADEG,jLETTER KAF SASAK,iHOT SASAK,kTZIR SASAK,kEF SASAK,iVE SASAK,iZAL SASAK
jASYURA SASAK,lRCHAIC JNYA,+3,tDIGIT ZERO,eONE,dTWO,cHREE,fFOUR,dIVE,eSIX,cEVEN,fEIGHT,fNINE,kPANTI
dMADA,gWINDU,fCARIK PAMUNGKAH,jSIKI,ePAREREN,nPAMENENG,iMUSICAL SYMBOL DONG,dENG,dUNG,dANG,a SURANG
kING,dAENG,eEUNG,eAING,dNG GEDE,jCOMBINING TEGEH,fENDEP,fKEMPUL,cLI,gJEGOGAN,hKEMPUL WITH JEGOGAN
pLI WITH JEGOGAN,tBENDE,fGONG,oRIGHT-HAND OPEN DUG,cAG,iCLOSED TUK,cAK,vLEFT-HAND OPEN PANG,dUNG
jCLOSED PLAK,cUK,lOPEN PING,zjPANTI LANTANG,lMADA LANTANG,+1,xSUNDANESE SIGN PANYECEK,fGLAYAR
fWISAD,oLETTER A,bI,bU,bAE,cO,bE,aU,cKA,cQA,cGA,cNGA,dCA,cJA,cZA,cNYA,dTA,cDA,cNA,cPA,cFA,cVA,cBA
cMA,cYA,cRA,cLA,cWA,cSA,cXA,cHA,jCONSONANT SIGN PAMINGKAL,hNYAKRA,eIKU,wVOWEL SIGN PANGHULU,fYUKU
eAELAENG,hOLONG,gMEPET,fNEULEUNG,vSIGN PAMAAEH,hVIRAMA,lCONSONANT SIGN PASANGAN MA,cWA,zbLETTER KHA
dSYA,kDIGIT ZERO,eONE,dTWO,cHREE,fFOUR,dIVE,eSIX,cEVEN,fEIGHT,fNINE,kAVAGRAHA,iLETTER REU,dLEU,dBHA
dFINAL K,bM,yBATAK LETTER A,bSIMALUNGUN A,mHA,cSIMALUNGUN HA,nMANDAILING HA,nBA,cKARO BA,hPA
cSIMALUNGUN PA,nNA,cMANDAILING NA,nWA,cSIMALUNGUN WA,nPAKPAK WA,jGA,cSIMALUNGUN GA,nJA,cDA,cRA
cSIMALUNGUN RA,nMA,cSIMALUNGUN MA,mOUTHERN TA,lNORTHERN TA,lSA,bIMALUNGUN SA,nMANDAILING SA,nYA
cSIMALUNGUN YA,nNGA,dLA,cSIMALUNGUN LA,nNYA,dCA,cNDA,dMBA,dI,bU,iSIGN TOMPI,kVOWEL SIGN E,bPAKPAK E
iEE,cI,bKARO I,gO,bKARO O,gU,a FOR SIMALUNGUN SA,zfCONSONANT SIGN NG,cH,qPANGOLAT,fONGONAN,+8
kSYMBOL BINDU NA METEK,iPINARBORAS,kJUDUL,fPANGOLAT,zcLEPCHA LETTER KA,bLA,cHA,dGA,bLA,dNGA,dCA,bHA
dJA,cNYA,dTA,bHA,dDA,cNA,cPA,bLA,cHA,dFA,bLA,dBA,bLA,dMA,bLA,dTSA,bHA,eDZA,dYA,cRA,cLA,cHA,bLA,dVA
cSA,bHA,dWA,cA,iSUBJOINED LETTER YA,cRA,tVOWEL SIGN AA,cI,bO,aO,cU,aU,cE,mCONSONANT SIGN K,bM,bL,bN
bP,bR,bT,bNYIN-DO,hKANG,tSIGN RAN,dNUKTA,+3,kPUNCTUATION TA-ROL,gNYET THYOOM TA-ROL,sCER-WA
gTSHOOK CER-WA,h,sDIGIT ZERO,eONE,dTWO,cHREE,fFOUR,dIVE,eSIX,cEVEN,fEIGHT,fNINE,+3,kLETTER TTA,bHA
eDDA,rOL CHIKI DIGIT ZERO,eONE,dTWO,cHREE,fFOUR,dIVE,eSIX,cEVEN,fEIGHT,fNINE,kLETTER LA,cAT,bG,bNG
cL,cLAA,dAAK,bJ,bM,bW,dLI,cIS,bH,bNY,cR,cLU,cUC,bD,bNN,cY,cLE,cEP,bDD,cN,bRR,dLO,cOTT,cB,bV,bH
jMU TTUDDAG,kGAAHLAA TTUDDAAG,qMU-GAAHLAA TTUDDAAG,tRELAA,fPHAARKAA,iAHAD,ePUNCTUATION MUCAAD
gDOUBLE MUCAAD,zjCYRILLIC SMALL LETTER ROUNDED VE,kLONG-LEGGED DE,oNARROW O,iWIDE ES,hTALL TE
gHREE-LEGGED TE,oALL HARD SIGN,jYAT,iUNBLENDED UK,+7,zjGEORGIAN MTAVRULI CAPITAL LETTER AN,cBAN
dGAN,dDON,dEN,cVIN,dZEN,dTAN,dIN,cKAN,dLAS,dMAN,dNAR,dON,cPAR,dZHAR,eRAE,dSAN,dTAR,dUN,cPHAR,eKHAR
eGHAN,eQAR,dSHIN,eCHIN,dAN,dJIL,dCIL,cHAR,eXAN,dJHAN,eHAE,cE,bIE,dWE,cHAR,cOE,dFI,cYN,cELIFI
fTURNED GAN,kAIN,+2,cEN,dHARD SIGN,jLABIAL SIGN,ztSUNDANESE PUNCTUATION BINDU SURYA,fPANGLONG
hURNAMA,hCAKRA,fLEU SATANGA,lKA SATANGA,kDA SATANGA,kBA SATANGA,+8,znVEDIC TONE KARSHANA,iSHARA
fPRENKHA,mSIGN NIHSHVASA,jYAJURVEDIC MIDLINE SVARITA
zgTONE YAJURVEDIC AGGRAVATED INDEPENDENT SVARITA,zfINDEPENDENT SVARITA,tKATHAKA INDEPENDENT SVARITA
znCANDRA BELOW,mYAJURVEDIC KATHAKA INDEPENDENT SVARITA SCHROEDER,zxDOUBLE SVARITA,oTRIPLE SVARITA
oKATHAKA ANUDATTA,qDOT BELOW,jTWO DOTS BELOW,nHREE DOTS BELOW
qRIGVEDIC KASHMIRI INDEPENDENT SVARITA,zmATHARVAVEDIC INDEPENDENT SVARITA,zmSIGN VISARGA SVARITA
hUDATTA,oREVERSED VISARGA UDATTA,xVISARGA ANUDATTA,qREVERSED VISARGA ANUDATTA
zaVISARGA UDATTA WITH TAIL,qANUDATTA WITH TAIL,zbANUSVARA ANTARGOMUKHA,mBAHIRGOMUKHA,mVAMAGOMUKHA
a WITH TAIL,zfTIRYAK,gHEXIFORM LONG ANUSVARA,wLONG ANUSVARA,nRTHANG LONG ANUSVARA
uANUSVARA UBHAYATO MUKHA,wRDHAVISARGA,mROTATED ARDHAVISARGA,zaTONE CANDRA ABOVE,rSIGN JIHVAMULIYA
lUPADHMANIYA,lATIKRAMA,nTONE RING ABOVE,kDOUBLE RING ABOVE,wSIGN DOUBLE ANUSVARA ANTARGOMUKHA,+5
zoLATIN LETTER SMALL CAPITAL A,aE,xSMALL LETTER TURNED AE,wLETTER SMALL CAPITAL BARRED B,iC,bD,bETH
c,wSMALL LETTER TURNED OPEN E,gI,vLETTER SMALL CAPITAL J,bK,bL WITH STROKE,nM,bREVERSED N,kO,aPEN O
zcSMALL LETTER SIDEWAYS O,aPEN O,f WITH STROKE,wTURNED OE,wLETTER SMALL CAPITAL OU
xSMALL LETTER TOP HALF O,kBOTTOM HALF O,zbLETTER SMALL CAPITAL P,bREVERSED R,kTURNED R,h,bU
wSMALL LETTER SIDEWAYS U,bDIAERESIZED U,nTURNED M,zfLETTER SMALL CAPITAL V,bW,bZ,bEZH
rVOICED LARYNGEAL SPIRANT,yAIN,qGREEK LETTER SMALL CAPITAL GAMMA,fLAMDA,fPI,cRHO,dPSI
zfCYRILLIC LETTER SMALL CAPITAL EL,zhMODIFIER LETTER CAPITAL A,aE,cB,aARRED B,iD,bE,bREVERSED E,kG
bH,bI,bJ,bK,bL,bM,bN,bREVERSED N,kO,aU,cP,bR,bT,bU,bW,jSMALL A,bTURNED A,iALPHA,fTURNED AE,jB,bD,bE
bSCHWA,fOPEN E,gTURNED OPEN E,nG,bTURNED I,iK,bM,bENG,dO,aPEN O,gTOP HALF O,kBOTTOM HALF O,nP,bT,bU
bSIDEWAYS U,kTURNED M,iV,bAIN,dBETA,eGREEK GAMMA,lDELTA,fGREEK PHI,jCHI
zaLATIN SUBSCRIPT SMALL LETTER I,bR,bU,bV,zfGREEK SUBSCRIPT SMALL LETTER BETA,eGAMMA,fRHO,dPHI,dCHI
zhLATIN SMALL LETTER UE,cB WITH MIDDLE TILDE,tD WITH MIDDLE TILDE,tF WITH MIDDLE TILDE
tM WITH MIDDLE TILDE,tN WITH MIDDLE TILDE,tP WITH MIDDLE TILDE,tR WITH MIDDLE TILDE
mFISHHOOK AND MIDDLE TILDE,zhS WITH MIDDLE TILDE,tT WITH MIDDLE TILDE,tZ WITH MIDDLE TILDE
tTURNED G,zcMODIFIER LETTER CYRILLIC EN,zcLATIN SMALL LETTER INSULAR G,jTH WITH STRIKETHROUGH
zdCAPITAL LETTER I WITH STROKE,zdLETTER IOTA WITH STROKE,qP WITH STROKE
uCAPITAL LETTER U WITH STROKE,zdLETTER UPSILON WITH STROKE,tB WITH PALATAL HOOK
tD WITH PALATAL HOOK,tF WITH PALATAL HOOK,tG WITH PALATAL HOOK,tK WITH PALATAL HOOK
tL WITH PALATAL HOOK,tM WITH PALATAL HOOK,tN WITH PALATAL HOOK,tP WITH PALATAL HOOK
tR WITH PALATAL HOOK,tS WITH PALATAL HOOK,tESH WITH PALATAL HOOK,vV WITH PALATAL HOOK
tX WITH PALATAL HOOK,tZ WITH PALATAL HOOK,tA WITH RETROFLEX HOOK,uLPHA WITH RETROFLEX HOOK
zaD WITH HOOK AND TAIL,uE WITH RETROFLEX HOOK,vOPEN E WITH RETROFLEX HOOK
zbREVERSED OPEN E WITH RETROFLEX HOOK,zkSCHWA WITH RETROFLEX HOOK,zaI WITH RETROFLEX HOOK
vOPEN O WITH RETROFLEX HOOK,zbESH WITH RETROFLEX HOOK,xU WITH RETROFLEX HOOK
vEZH WITH RETROFLEX HOOK,zrMODIFIER LETTER SMALL TURNED ALPHA,mC,a WITH CURL,lETH,dREVERSED OPEN E
pF,bDOTLESS J WITH STROKE,vSCRIPT G,iTURNED H,iI WITH STROKE,mOTA,eCAPITAL I,a WITH STROKE
vJ WITH CROSSED-TAIL,tL WITH RETROFLEX HOOK,oPALATAL HOOK,tCAPITAL L,jM WITH HOOK
lTURNED M WITH LONG LEG,wN WITH LEFT HOOK,jRETROFLEX HOOK,vCAPITAL N,jBARRED O,iPHI,dS WITH HOOK
lESH,dT WITH PALATAL HOOK,tU BAR,ePSILON,hCAPITAL U,jV WITH HOOK,lTURNED V,iZ,a WITH RETROFLEX HOOK
oCURL,lEZH,dTHETA,zcCOMBINING DOTTED GRAVE ACCENT,mACUTE ACCENT,tSNAKE BELOW,kUSPENSION MARK
pMACRON-ACUTE,mGRAVE-MACRON,mMACRON-GRAVE,mACUTE-MACRON,mGRAVE-ACUTE-GRAVE,rACUTE-GRAVE-ACUTE
rLATIN SMALL LETTER R BELOW,zbBREVE-MACRON,mMACRON-BREVE,mDOUBLE CIRCUMFLEX ABOVE,xOGONEK ABOVE
mZIGZAG BELOW,mIS BELOW,iUR ABOVE,hS ABOVE,iLATIN SMALL LETTER FLATTENED OPEN A ABOVE,wAE,bO,bV
cC CEDILLA,jINSULAR D,jETH,dG,oLETTER SMALL CAPITAL G,wSMALL LETTER K,bL,oLETTER SMALL CAPITAL L,bM
wSMALL LETTER N,oLETTER SMALL CAPITAL N,bR,wSMALL LETTER R ROTUNDA,jS,bLONG S,gZ,bALPHA,fB,aETA
eSCHWA,fF,bL WITH DOUBLE MIDDLE TILDE,zbO WITH LIGHT CENTRALIZATION STROKE,zjP,bESH
dU WITH LIGHT CENTRALIZATION STROKE,zjW,bA WITH DIAERESIS,qO WITH DIAERESIS,qU WITH DIAERESIS
zkUP TACK ABOVE,nKAVYKA ABOVE RIGHT,fLEFT,rDOT ABOVE LEFT,oWIDE INVERTED BRIDGE BELOW
zbDOT BELOW LEFT,nELETION MARK,mOUBLE INVERTED BREVE BELOW,zcALMOST EQUAL TO BELOW
vLEFT ARROWHEAD ABOVE,uRIGHT ARROWHEAD AND DOWN ARROWHEAD BELOW
zzaLATIN CAPITAL LETTER A WITH RING BELOW,zhSMALL LETTER A WITH RING BELOW
zfCAPITAL LETTER B WITH DOT ABOVE,zgSMALL LETTER B WITH DOT ABOVE,zeCAPITAL LETTER B WITH DOT BELOW
zgSMALL LETTER B WITH DOT BELOW,zeCAPITAL LETTER B WITH LINE BELOW,zhSMALL LETTER B WITH LINE BELOW
zfCAPITAL LETTER C WITH CEDILLA AND ACUTE,zoSMALL LETTER C WITH CEDILLA AND ACUTE
zmCAPITAL LETTER D WITH DOT ABOVE,zgSMALL LETTER D WITH DOT ABOVE,zeCAPITAL LETTER D WITH DOT BELOW
zgSMALL LETTER D WITH DOT BELOW,zeCAPITAL LETTER D WITH LINE BELOW,zhSMALL LETTER D WITH LINE BELOW
zfCAPITAL LETTER D WITH CEDILLA,zeSMALL LETTER D WITH CEDILLA
zcCAPITAL LETTER D WITH CIRCUMFLEX BELOW,znSMALL LETTER D WITH CIRCUMFLEX BELOW
zlCAPITAL LETTER E WITH MACRON AND GRAVE,znSMALL LETTER E WITH MACRON AND GRAVE
zlCAPITAL LETTER E WITH MACRON AND ACUTE,znSMALL LETTER E WITH MACRON AND ACUTE
zlCAPITAL LETTER E WITH CIRCUMFLEX BELOW,znSMALL LETTER E WITH CIRCUMFLEX BELOW
zlCAPITAL LETTER E WITH TILDE BELOW,ziSMALL LETTER E WITH TILDE BELOW
zgCAPITAL LETTER E WITH CEDILLA AND BREVE,zoSMALL LETTER E WITH CEDILLA AND BREVE
zmCAPITAL LETTER F WITH DOT ABOVE,zgSMALL LETTER F WITH DOT ABOVE,zeCAPITAL LETTER G WITH MACRON
zdSMALL LETTER G WITH MACRON,zbCAPITAL LETTER H WITH DOT ABOVE,zgSMALL LETTER H WITH DOT ABOVE
zeCAPITAL LETTER H WITH DOT BELOW,zgSMALL LETTER H WITH DOT BELOW,zeCAPITAL LETTER H WITH DIAERESIS
zgSMALL LETTER H WITH DIAERESIS,zeCAPITAL LETTER H WITH CEDILLA,zeSMALL LETTER H WITH CEDILLA
zcCAPITAL LETTER H WITH BREVE BELOW,ziSMALL LETTER H WITH BREVE BELOW
zgCAPITAL LETTER I WITH TILDE BELOW,ziSMALL LETTER I WITH TILDE BELOW
zgCAPITAL LETTER I WITH DIAERESIS AND ACUTE,zqSMALL LETTER I WITH DIAERESIS AND ACUTE
zoCAPITAL LETTER K WITH ACUTE,zcSMALL LETTER K WITH ACUTE,zaCAPITAL LETTER K WITH DOT BELOW
zgSMALL LETTER K WITH DOT BELOW,zeCAPITAL LETTER K WITH LINE BELOW,zhSMALL LETTER K WITH LINE BELOW
zfCAPITAL LETTER L WITH DOT BELOW,zgSMALL LETTER L WITH DOT BELOW
zeCAPITAL LETTER L WITH DOT BELOW AND MACRON,zrSMALL LETTER L WITH DOT BELOW AND MACRON
zpCAPITAL LETTER L WITH LINE BELOW,zhSMALL LETTER L WITH LINE BELOW
zfCAPITAL LETTER L WITH CIRCUMFLEX BELOW,znSMALL LETTER L WITH CIRCUMFLEX BELOW
zlCAPITAL LETTER M WITH ACUTE,zcSMALL LETTER M WITH ACUTE,zaCAPITAL LETTER M WITH DOT ABOVE
zgSMALL LETTER M WITH DOT ABOVE,zeCAPITAL LETTER M WITH DOT BELOW,zgSMALL LETTER M WITH DOT BELOW
zeCAPITAL LETTER N WITH DOT ABOVE,zgSMALL LETTER N WITH DOT ABOVE,zeCAPITAL LETTER N WITH DOT BELOW
zgSMALL LETTER N WITH DOT BELOW,zeCAPITAL LETTER N WITH LINE BELOW,zhSMALL LETTER N WITH LINE BELOW
zfCAPITAL LETTER N WITH CIRCUMFLEX BELOW,znSMALL LETTER N WITH CIRCUMFLEX BELOW
zlCAPITAL LETTER O WITH TILDE AND ACUTE,zmSMALL LETTER O WITH TILDE AND ACUTE
zkCAPITAL LETTER O WITH TILDE AND DIAERESIS,zqSMALL LETTER O WITH TILDE AND DIAERESIS
zoCAPITAL LETTER O WITH MACRON AND GRAVE,znSMALL LETTER O WITH MACRON AND GRAVE
zlCAPITAL LETTER O WITH MACRON AND ACUTE,znSMALL LETTER O WITH MACRON AND ACUTE
zlCAPITAL LETTER P WITH ACUTE,zcSMALL LETTER P WITH ACUTE,zaCAPITAL LETTER P WITH DOT ABOVE
zgSMALL LETTER P WITH DOT ABOVE,zeCAPITAL LETTER R WITH DOT ABOVE,zgSMALL LETTER R WITH DOT ABOVE
zeCAPITAL LETTER R WITH DOT BELOW,zgSMALL LETTER R WITH DOT BELOW
zeCAPITAL LETTER R WITH DOT BELOW AND MACRON,zrSMALL LETTER R WITH DOT BELOW AND MACRON
zpCAPITAL LETTER R WITH LINE BELOW,zhSMALL LETTER R WITH LINE BELOW
zfCAPITAL LETTER S WITH DOT ABOVE,zgSMALL LETTER S WITH DOT ABOVE,zeCAPITAL LETTER S WITH DOT BELOW
zgSMALL LETTER S WITH DOT BELOW,zeCAPITAL LETTER S WITH ACUTE AND DOT ABOVE
zqSMALL LETTER S WITH ACUTE AND DOT ABOVE,zoCAPITAL LETTER S WITH CARON AND DOT ABOVE
zqSMALL LETTER S WITH CARON AND DOT ABOVE,zoCAPITAL LETTER S WITH DOT BELOW AND DOT ABOVE
zuSMALL LETTER S WITH DOT BELOW AND DOT ABOVE,zsCAPITAL LETTER T WITH DOT ABOVE
zgSMALL LETTER T WITH DOT ABOVE,zeCAPITAL LETTER T WITH DOT BELOW,zgSMALL LETTER T WITH DOT BELOW
zeCAPITAL LETTER T WITH LINE BELOW,zhSMALL LETTER T WITH LINE BELOW
zfCAPITAL LETTER T WITH CIRCUMFLEX BELOW,znSMALL LETTER T WITH CIRCUMFLEX BELOW
zlCAPITAL LETTER U WITH DIAERESIS BELOW,zmSMALL LETTER U WITH DIAERESIS BELOW
zkCAPITAL LETTER U WITH TILDE BELOW,ziSMALL LETTER U WITH TILDE BELOW
zgCAPITAL LETTER U WITH CIRCUMFLEX BELOW,znSMALL LETTER U WITH CIRCUMFLEX BELOW
zlCAPITAL LETTER U WITH TILDE AND ACUTE,zmSMALL LETTER U WITH TILDE AND ACUTE
zkCAPITAL LETTER U WITH MACRON AND DIAERESIS,zrSMALL LETTER U WITH MACRON AND DIAERESIS
zpCAPITAL LETTER V WITH TILDE,zcSMALL LETTER V WITH TILDE,zaCAPITAL LETTER V WITH DOT BELOW
zgSMALL LETTER V WITH DOT BELOW,zeCAPITAL LETTER W WITH GRAVE,zcSMALL LETTER W WITH GRAVE
zaCAPITAL LETTER W WITH ACUTE,zcSMALL LETTER W WITH ACUTE,zaCAPITAL LETTER W WITH DIAERESIS
zgSMALL LETTER W WITH DIAERESIS,zeCAPITAL LETTER W WITH DOT ABOVE,zgSMALL LETTER W WITH DOT ABOVE
zeCAPITAL LETTER W WITH DOT BELOW,zgSMALL LETTER W WITH DOT BELOW,zeCAPITAL LETTER X WITH DOT ABOVE
zgSMALL LETTER X WITH DOT ABOVE,zeCAPITAL LETTER X WITH DIAERESIS,zgSMALL LETTER X WITH DIAERESIS
zeCAPITAL LETTER Y WITH DOT ABOVE,zgSMALL LETTER Y WITH DOT ABOVE
zeCAPITAL LETTER Z WITH CIRCUMFLEX,zhSMALL LETTER Z WITH CIRCUMFLEX
zfCAPITAL LETTER Z WITH DOT BELOW,zgSMALL LETTER Z WITH DOT BELOW
zeCAPITAL LETTER Z WITH LINE BELOW,zhSMALL LETTER Z WITH LINE BELOW,rH WITH LINE BELOW
rT WITH DIAERESIS,qW WITH RING ABOVE,rY WITH RING ABOVE,rA WITH RIGHT HALF RING
wLONG S WITH DOT ABOVE,iIAGONAL STROKE,pHIGH STROKE,zlCAPITAL LETTER SHARP S,wSMALL LETTER DELTA
sCAPITAL LETTER A WITH DOT BELOW,zgSMALL LETTER A WITH DOT BELOW,zeCAPITAL LETTER A WITH HOOK ABOVE
zhSMALL LETTER A WITH HOOK ABOVE,zfCAPITAL LETTER A WITH CIRCUMFLEX AND ACUTE
zrSMALL LETTER A WITH CIRCUMFLEX AND ACUTE,zpCAPITAL LETTER A WITH CIRCUMFLEX AND GRAVE
zrSMALL LETTER A WITH CIRCUMFLEX AND GRAVE,zpCAPITAL LETTER A WITH CIRCUMFLEX AND HOOK ABOVE
zwSMALL LETTER A WITH CIRCUMFLEX AND HOOK ABOVE,zuCAPITAL LETTER A WITH CIRCUMFLEX AND TILDE
zrSMALL LETTER A WITH CIRCUMFLEX AND TILDE,zpCAPITAL LETTER A WITH CIRCUMFLEX AND DOT BELOW
zvSMALL LETTER A WITH CIRCUMFLEX AND DOT BELOW,ztCAPITAL LETTER A WITH BREVE AND ACUTE
zmSMALL LETTER A WITH BREVE AND ACUTE,zkCAPITAL LETTER A WITH BREVE AND GRAVE
zmSMALL LETTER A WITH BREVE AND GRAVE,zkCAPITAL LETTER A WITH BREVE AND HOOK ABOVE
zrSMALL LETTER A WITH BREVE AND HOOK ABOVE,zpCAPITAL LETTER A WITH BREVE AND TILDE
zmSMALL LETTER A WITH BREVE AND TILDE,zkCAPITAL LETTER A WITH BREVE AND DOT BELOW
zqSMALL LETTER A WITH BREVE AND DOT BELOW,zoCAPITAL LETTER E WITH DOT BELOW
zgSMALL LETTER E WITH DOT BELOW,zeCAPITAL LETTER E WITH HOOK ABOVE,zhSMALL LETTER E WITH HOOK ABOVE
zfCAPITAL LETTER E WITH TILDE,zcSMALL LETTER E WITH TILDE
zaCAPITAL LETTER E WITH CIRCUMFLEX AND ACUTE,zrSMALL LETTER E WITH CIRCUMFLEX AND ACUTE
zpCAPITAL LETTER E WITH CIRCUMFLEX AND GRAVE,zrSMALL LETTER E WITH CIRCUMFLEX AND GRAVE
zpCAPITAL LETTER E WITH CIRCUMFLEX AND HOOK ABOVE,zwSMALL LETTER E WITH CIRCUMFLEX AND HOOK ABOVE
zuCAPITAL LETTER E WITH CIRCUMFLEX AND TILDE,zrSMALL LETTER E WITH CIRCUMFLEX AND TILDE
zpCAPITAL LETTER E WITH CIRCUMFLEX AND DOT BELOW,zvSMALL LETTER E WITH CIRCUMFLEX AND DOT BELOW
ztCAPITAL LETTER I WITH HOOK ABOVE,zhSMALL LETTER I WITH HOOK ABOVE
zfCAPITAL LETTER I WITH DOT BELOW,zgSMALL LETTER I WITH DOT BELOW,zeCAPITAL LETTER O WITH DOT BELOW
zgSMALL LETTER O WITH DOT BELOW,zeCAPITAL LETTER O WITH HOOK ABOVE,zhSMALL LETTER O WITH HOOK ABOVE
zfCAPITAL LETTER O WITH CIRCUMFLEX AND ACUTE,zrSMALL LETTER O WITH CIRCUMFLEX AND ACUTE
zpCAPITAL LETTER O WITH CIRCUMFLEX AND GRAVE,zrSMALL LETTER O WITH CIRCUMFLEX AND GRAVE
zpCAPITAL LETTER O WITH CIRCUMFLEX AND HOOK ABOVE,zwSMALL LETTER O WITH CIRCUMFLEX AND HOOK ABOVE
zuCAPITAL LETTER O WITH CIRCUMFLEX AND TILDE,zrSMALL LETTER O WITH CIRCUMFLEX AND TILDE
zpCAPITAL LETTER O WITH CIRCUMFLEX AND DOT BELOW,zvSMALL LETTER O WITH CIRCUMFLEX AND DOT BELOW
ztCAPITAL LETTER O WITH HORN AND ACUTE,zlSMALL LETTER O WITH HORN AND ACUTE
zjCAPITAL LETTER O WITH HORN AND GRAVE,zlSMALL LETTER O WITH HORN AND GRAVE
zjCAPITAL LETTER O WITH HORN AND HOOK ABOVE,zqSMALL LETTER O WITH HORN AND HOOK ABOVE
zoCAPITAL LETTER O WITH HORN AND TILDE,zlSMALL LETTER O WITH HORN AND TILDE
zjCAPITAL LETTER O WITH HORN AND DOT BELOW,zpSMALL LETTER O WITH HORN AND DOT BELOW
znCAPITAL LETTER U WITH DOT BELOW,zgSMALL LETTER U WITH DOT BELOW
zeCAPITAL LETTER U WITH HOOK ABOVE,zhSMALL LETTER U WITH HOOK ABOVE
zfCAPITAL LETTER U WITH HORN AND ACUTE,zlSMALL LETTER U WITH HORN AND ACUTE
zjCAPITAL LETTER U WITH HORN AND GRAVE,zlSMALL LETTER U WITH HORN AND GRAVE
zjCAPITAL LETTER U WITH HORN AND HOOK ABOVE,zqSMALL LETTER U WITH HORN AND HOOK ABOVE
zoCAPITAL LETTER U WITH HORN AND TILDE,zlSMALL LETTER U WITH HORN AND TILDE
zjCAPITAL LETTER U WITH HORN AND DOT BELOW,zpSMALL LETTER U WITH HORN AND DOT BELOW
znCAPITAL LETTER Y WITH GRAVE,zcSMALL LETTER Y WITH GRAVE,zaCAPITAL LETTER Y WITH DOT BELOW
zgSMALL LETTER Y WITH DOT BELOW,zeCAPITAL LETTER Y WITH HOOK ABOVE,zhSMALL LETTER Y WITH HOOK ABOVE
zfCAPITAL LETTER Y WITH TILDE,zcSMALL LETTER Y WITH TILDE,zaCAPITAL LETTER MIDDLE-WELSH LL
zfSMALL LETTER MIDDLE-WELSH LL,zdCAPITAL LETTER MIDDLE-WELSH V,zeSMALL LETTER MIDDLE-WELSH V
zcCAPITAL LETTER Y WITH LOOP,zbSMALL LETTER Y WITH LOOP,zfGREEK SMALL LETTER ALPHA WITH PSILI
fDASIA,fPSILI AND VARIA,pDASIA AND VARIA,pPSILI AND OXIA,oDASIA AND OXIA,oPSILI AND PERISPOMENI
vDASIA AND PERISPOMENI,zuCAPITAL LETTER ALPHA WITH PSILI,fDASIA,fPSILI AND VARIA,pDASIA AND VARIA
pPSILI AND OXIA,oDASIA AND OXIA,oPSILI AND PERISPOMENI,vDASIA AND PERISPOMENI
zwSMALL LETTER EPSILON WITH PSILI,fDASIA,fPSILI AND VARIA,pDASIA AND VARIA,pPSILI AND OXIA
oDASIA AND OXIA,+2,zpCAPITAL LETTER EPSILON WITH PSILI,fDASIA,fPSILI AND VARIA,pDASIA AND VARIA
pPSILI AND OXIA,oDASIA AND OXIA,+2,zrSMALL LETTER ETA WITH PSILI,fDASIA,fPSILI AND VARIA
pDASIA AND VARIA,pPSILI AND OXIA,oDASIA AND OXIA,oPSILI AND PERISPOMENI,vDASIA AND PERISPOMENI
zsCAPITAL LETTER ETA WITH PSILI,fDASIA,fPSILI AND VARIA,pDASIA AND VARIA,pPSILI AND OXIA
oDASIA AND OXIA,oPSILI AND PERISPOMENI,vDASIA AND PERISPOMENI,zuSMALL LETTER IOTA WITH PSILI,fDASIA
fPSILI AND VARIA,pDASIA AND VARIA,pPSILI AND OXIA,oDASIA AND OXIA,oPSILI AND PERISPOMENI
vDASIA AND PERISPOMENI,ztCAPITAL LETTER IOTA WITH PSILI,fDASIA,fPSILI AND VARIA,pDASIA AND VARIA
pPSILI AND OXIA,oDASIA AND OXIA,oPSILI AND PERISPOMENI,vDASIA AND PERISPOMENI
zvSMALL LETTER OMICRON WITH PSILI,fDASIA,fPSILI AND VARIA,pDASIA AND VARIA,pPSILI AND OXIA
oDASIA AND OXIA,+2,zpCAPITAL LETTER OMICRON WITH PSILI,fDASIA,fPSILI AND VARIA,pDASIA AND VARIA
pPSILI AND OXIA,oDASIA AND OXIA,+2,zrSMALL LETTER UPSILON WITH PSILI,fDASIA,fPSILI AND VARIA
pDASIA AND VARIA,pPSILI AND OXIA,oDASIA AND OXIA,oPSILI AND PERISPOMENI,vDASIA AND PERISPOMENI,+1
zwCAPITAL LETTER UPSILON WITH DASIA,+1,a AND VARIA,+1,fOXIA,+1,ePERISPOMENI
zySMALL LETTER OMEGA WITH PSILI,fDASIA,fPSILI AND VARIA,pDASIA AND VARIA,pPSILI AND OXIA
oDASIA AND OXIA,oPSILI AND PERISPOMENI,vDASIA AND PERISPOMENI,zuCAPITAL LETTER OMEGA WITH PSILI
fDASIA,fPSILI AND VARIA,pDASIA AND VARIA,pPSILI AND OXIA,oDASIA AND OXIA,oPSILI AND PERISPOMENI
vDASIA AND PERISPOMENI,zwSMALL LETTER ALPHA WITH VARIA,fOXIA,pEPSILON WITH VARIA,fOXIA
qTA WITH VARIA,fOXIA,nIOTA WITH VARIA,fOXIA,oOMICRON WITH VARIA,fOXIA,rUPSILON WITH VARIA,fOXIA
rOMEGA WITH VARIA,fOXIA,+2,pALPHA WITH PSILI AND YPOGEGRAMMENI,xDASIA AND YPOGEGRAMMENI
xPSILI AND VARIA AND YPOGEGRAMMENI,ziDASIA AND VARIA AND YPOGEGRAMMENI
ziPSILI AND OXIA AND YPOGEGRAMMENI,zhDASIA AND OXIA AND YPOGEGRAMMENI
zhPSILI AND PERISPOMENI AND YPOGEGRAMMENI,zoDASIA AND PERISPOMENI AND YPOGEGRAMMENI
zznCAPITAL LETTER ALPHA WITH PSILI AND PROSGEGRAMMENI,yDASIA AND PROSGEGRAMMENI
yPSILI AND VARIA AND PROSGEGRAMMENI,zjDASIA AND VARIA AND PROSGEGRAMMENI
zjPSILI AND OXIA AND PROSGEGRAMMENI,ziDASIA AND OXIA AND PROSGEGRAMMENI
ziPSILI AND PERISPOMENI AND PROSGEGRAMMENI,zpDASIA AND PERISPOMENI AND PROSGEGRAMMENI
zzqSMALL LETTER ETA WITH PSILI AND YPOGEGRAMMENI,xDASIA AND YPOGEGRAMMENI
xPSILI AND VARIA AND YPOGEGRAMMENI,ziDASIA AND VARIA AND YPOGEGRAMMENI
ziPSILI AND OXIA AND YPOGEGRAMMENI,zhDASIA AND OXIA AND YPOGEGRAMMENI
zhPSILI AND PERISPOMENI AND YPOGEGRAMMENI,zoDASIA AND PERISPOMENI AND YPOGEGRAMMENI
zzlCAPITAL LETTER ETA WITH PSILI AND PROSGEGRAMMENI,yDASIA AND PROSGEGRAMMENI
yPSILI AND VARIA AND PROSGEGRAMMENI,zjDASIA AND VARIA AND PROSGEGRAMMENI
zjPSILI AND OXIA AND PROSGEGRAMMENI,ziDASIA AND OXIA AND PROSGEGRAMMENI
ziPSILI AND PERISPOMENI AND PROSGEGRAMMENI,zpDASIA AND PERISPOMENI AND PROSGEGRAMMENI
zzoSMALL LETTER OMEGA WITH PSILI AND YPOGEGRAMMENI,xDASIA AND YPOGEGRAMMENI
xPSILI AND VARIA AND YPOGEGRAMMENI,ziDASIA AND VARIA AND YPOGEGRAMMENI
ziPSILI AND OXIA AND YPOGEGRAMMENI,zhDASIA AND OXIA AND YPOGEGRAMMENI
zhPSILI AND PERISPOMENI AND YPOGEGRAMMENI,zoDASIA AND PERISPOMENI AND YPOGEGRAMMENI
zznCAPITAL LETTER OMEGA WITH PSILI AND PROSGEGRAMMENI,yDASIA AND PROSGEGRAMMENI
yPSILI AND VARIA AND PROSGEGRAMMENI,zjDASIA AND VARIA AND PROSGEGRAMMENI
zjPSILI AND OXIA AND PROSGEGRAMMENI,ziDASIA AND OXIA AND PROSGEGRAMMENI
ziPSILI AND PERISPOMENI AND PROSGEGRAMMENI,zpDASIA AND PERISPOMENI AND PROSGEGRAMMENI
zzqSMALL LETTER ALPHA WITH VRACHY,gMACRON,gVARIA AND YPOGEGRAMMENI,xYPOGEGRAMMENI
nOXIA AND YPOGEGRAMMENI,+1,wPERISPOMENI,a AND YPOGEGRAMMENI,zzdCAPITAL LETTER ALPHA WITH VRACHY
gMACRON,gVARIA,fOXIA,ePROSGEGRAMMENI,zpKORONIS,hPROSGEGRAMMENI,nSILI,eERISPOMENI
lDIALYTIKA AND PERISPOMENI,zaSMALL LETTER ETA WITH VARIA AND YPOGEGRAMMENI,xYPOGEGRAMMENI
nOXIA AND YPOGEGRAMMENI,+1,wPERISPOMENI,a AND YPOGEGRAMMENI,zzbCAPITAL LETTER EPSILON WITH VARIA
fOXIA,qTA WITH VARIA,fOXIA,ePROSGEGRAMMENI,znPSILI AND VARIA,fOXIA,ePERISPOMENI
vSMALL LETTER IOTA WITH VRACHY,gMACRON,gDIALYTIKA AND VARIA,fOXIA,+2,sPERISPOMENI
lDIALYTIKA AND PERISPOMENI,zxCAPITAL LETTER IOTA WITH VRACHY,gMACRON,gVARIA,fOXIA,+1
zeDASIA AND VARIA,fOXIA,ePERISPOMENI,vSMALL LETTER UPSILON WITH VRACHY,gMACRON,gDIALYTIKA AND VARIA
fOXIA,zgRHO WITH PSILI,fDASIA,oUPSILON WITH PERISPOMENI,lDIALYTIKA AND PERISPOMENI
zzbCAPITAL LETTER UPSILON WITH VRACHY,gMACRON,gVARIA,fOXIA,rRHO WITH DASIA,zeDIALYTIKA AND VARIA
fOXIA,sVARIA,+2,fSMALL LETTER OMEGA WITH VARIA AND YPOGEGRAMMENI,xYPOGEGRAMMENI
nOXIA AND YPOGEGRAMMENI,+1,wPERISPOMENI,a AND YPOGEGRAMMENI,zzdCAPITAL LETTER OMICRON WITH VARIA
fOXIA,pEGA WITH VARIA,fOXIA,ePROSGEGRAMMENI,zpOXIA,eDASIA"

end SchemaDoc.Text.Names
