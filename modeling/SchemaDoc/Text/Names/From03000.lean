/-
SchemaDoc.Text.Names.From03000 — the names of the characters from U+3000 on.

The block holds the signs and syllables of East Asia.
How it is written is said where it is read.
-/

namespace SchemaDoc.Text.Names

/-- The names from U+3000 on. -/
def from03000 : String :=
  "aIDEOGRAPHIC SPACE,fCOMMA,fFULL STOP,vDITTO MARK,kJAPANESE INDUSTRIAL STANDARD SYMBOL
zkIDEOGRAPHIC ITERATION MARK,oCLOSING MARK,mNUMBER ZERO,xLEFT ANGLE BRACKET,sRIGHT ANGLE BRACKET
tLEFT DOUBLE ANGLE BRACKET,zaRIGHT DOUBLE ANGLE BRACKET,zbLEFT CORNER BRACKET,tRIGHT CORNER BRACKET
uLEFT WHITE CORNER BRACKET,zaRIGHT WHITE CORNER BRACKET,zbLEFT BLACK LENTICULAR BRACKET
zeRIGHT BLACK LENTICULAR BRACKET,zfPOSTAL MARK,lGETA MARK,jLEFT TORTOISE SHELL BRACKET
zcRIGHT TORTOISE SHELL BRACKET,zdLEFT WHITE LENTICULAR BRACKET,zeRIGHT WHITE LENTICULAR BRACKET
zfLEFT WHITE TORTOISE SHELL BRACKET,ziRIGHT WHITE TORTOISE SHELL BRACKET
zjLEFT WHITE SQUARE BRACKET,zaRIGHT WHITE SQUARE BRACKET,zbWAVE DASH
jREVERSED DOUBLE PRIME QUOTATION MARK,zlDOUBLE PRIME QUOTATION MARK
zcLOW DOUBLE PRIME QUOTATION MARK,zgPOSTAL MARK FACE,qHANGZHOU NUMERAL ONE,dTWO,cHREE,fFOUR,dIVE
eSIX,cEVEN,fEIGHT,fNINE,vIDEOGRAPHIC LEVEL TONE MARK,pRISING TONE MARK,qDEPARTING TONE MARK
tENTERING TONE MARK,zfHANGUL SINGLE DOT TONE MARK,uDOUBLE DOT TONE MARK,zcWAVY DASH
jVERTICAL KANA REPEAT MARK,eWITH VOICED SOUND MARK,wMARK UPPER HALF
pWITH VOICED SOUND MARK UPPER HALF,ziMARK LOWER HALF,zlCIRCLED POSTAL MARK
tIDEOGRAPHIC TELEGRAPH LINE FEED SEPARATOR SYMBOL,zxHANGZHOU NUMERAL TEN,cWENTY,fHIRTY
xVERTICAL IDEOGRAPHIC ITERATION MARK,zkMASU MARK,jPART ALTERNATION MARK
vIDEOGRAPHIC VARIATION INDICATOR,tHALF FILL SPACE,+1,zcHIRAGANA LETTER SMALL A,hA,bSMALL I,hI
bSMALL U,hU,bSMALL E,hE,bSMALL O,hO,bKA,cGA,cKI,cGI,cKU,cGU,cKE,cGE,cKO,cGO,cSA,cZA,cSI,cZI,cSU,cZU
cSE,cZE,cSO,cZO,cTA,cDA,cTI,cDI,cSMALL TU,iTU,cDU,cTE,cDE,cTO,cDO,cNA,bI,bU,bE,bO,cHA,cBA,cPA,cHI
cBI,cPI,cHU,cBU,cPU,cHE,cBE,cPE,cHO,cBO,cPO,cMA,bI,bU,bE,bO,cSMALL YA,iYA,cSMALL YU,iYU,cSMALL YO
iYO,cRA,bI,bU,bE,bO,cSMALL WA,iWA,bI,bE,bO,cN,bVU,cSMALL KA,bE,+2
yCOMBINING KATAKANA-HIRAGANA VOICED SOUND MARK,rSEMI-VOICED SOUND MARK
zzaKATAKANA-HIRAGANA VOICED SOUND MARK,rSEMI-VOICED SOUND MARK,zpHIRAGANA ITERATION MARK
oVOICED ITERATION MARK,vDIGRAPH YORI,vKATAKANA-HIRAGANA DOUBLE HYPHEN,x LETTER SMALL A,hA,bSMALL I
hI,bSMALL U,hU,bSMALL E,hE,bSMALL O,hO,bKA,cGA,cKI,cGI,cKU,cGU,cKE,cGE,cKO,cGO,cSA,cZA,cSI,cZI,cSU
cZU,cSE,cZE,cSO,cZO,cTA,cDA,cTI,cDI,cSMALL TU,iTU,cDU,cTE,cDE,cTO,cDO,cNA,bI,bU,bE,bO,cHA,cBA,cPA
cHI,cBI,cPI,cHU,cBU,cPU,cHE,cBE,cPE,cHO,cBO,cPO,cMA,bI,bU,bE,bO,cSMALL YA,iYA,cSMALL YU,iYU
cSMALL YO,iYO,cRA,bI,bU,bE,bO,cSMALL WA,iWA,bI,bE,bO,cN,bVU,cSMALL KA,bE,iVA,bI,bE,bO,jMIDDLE DOT
l-HIRAGANA PROLONGED SOUND MARK,zf ITERATION MARK,oVOICED ITERATION MARK,vDIGRAPH KOTO,+5
vBOPOMOFO LETTER B,bP,bM,bF,bD,bT,bN,bL,bG,bK,bH,bJ,bQ,bX,bZH,cCH,cSH,cR,bZ,bC,bS,bA,bO,bE,aH,cAI
cEI,cAU,cOU,cAN,cEN,cANG,dENG,cR,cI,bU,bIU,cV,bNG,cGN,cIH,cO WITH DOT ABOVE,qNN,+1
sHANGUL LETTER KIYEOK,gSSANGKIYEOK,lKIYEOK-SIOS,lNIEUN,a-CIEUC,fHIEUH,lTIKEUT,gSSANGTIKEUT,lRIEUL
a-KIYEOK,gMIEUM,fPIEUP,fSIOS,eTHIEUTH,hPHIEUPH,hHIEUH,lMIEUM,fPIEUP,fSSANGPIEUP,kPIEUP-SIOS,kSIOS
dSANGSIOS,jIEUNG,fCIEUC,fSSANGCIEUC,kCHIEUCH,hKHIEUKH,hTHIEUTH,hPHIEUPH,hHIEUH,fA,aE,cYA,aE,dEO,b
bYEO,b,cO,bWA,aE,dOE,cYO,cU,bWEO,b,bI,cYU,cEU,cYI,cI,iFILLER,gLETTER SSANGNIEUN,kNIEUN-TIKEUT,gSIOS
ePANSIOS,nRIEUL-KIYEOK-SIOS,lTIKEUT,gPIEUP-SIOS,jANSIOS,hYEORINHIEUH,rMIEUM-PIEUP,fSIOS,ePANSIOS
nKAPYEOUNMIEUM,nPIEUP-KIYEOK,gTIKEUT,gSIOS-KIYEOK,gTIKEUT,lCIEUC,fTHIEUTH,nKAPYEOUNPIEUP
fSSANGPIEUP,sSIOS-KIYEOK,gNIEUN,fTIKEUT,gPIEUP,fCIEUC,kPANSIOS,hSSANGIEUNG,kYESIEUNG,a-SIOS
ePANSIOS,qKAPYEOUNPHIEUPH,pSSANGHIEUH,kYEORINHIEUH,kO-YA,aE,dI,dU-YEO,b,cI,eARAEA,aE,+1
uIDEOGRAPHIC ANNOTATION LINKING MARK,mREVERSE MARK,mONE MARK,iTWO MARK,hHREE MARK,kFOUR MARK
jTOP MARK,iMIDDLE MARK,lBOTTOM MARK,lFIRST MARK,kSECOND MARK,lTHIRD MARK,kFOURTH MARK,lHEAVEN MARK
lEARTH MARK,kMAN MARK,zgBOPOMOFO LETTER BU,cZI,cJI,cGU,cEE,bNN,dOO,bNN,dIR,cANN,dINN,dUNN,dIM,cNGG
dAINN,dUNN,dM,cOM,bNG,dINNN,lFINAL LETTER P,bT,bK,bH,oLETTER GH,cLH,cZY,jFINAL LETTER G,oLETTER GW
cKW,cOE,cAH,sCJK STROKE T,bWG,cXG,cBXG,dSW,cHZZ,bG,cP,bZWG,eSZWG,eHZT,bZP,dPWG,dZW,bZZ,eN,bH,bS,bP
bSP,cD,bHZ,bG,cSZ,bWZ,cT,bG,cPD,bZ,cTN,cSZZ,cWG,dHXWG,dZZZG,fPG,cQ,+12,mKATAKANA LETTER SMALL KU
cSI,bU,cTO,cNU,cHA,bI,bU,bE,bO,cMU,cRA,bI,bU,bE,bO,yPARENTHESIZED HANGUL KIYEOK,gNIEUN,fTIKEUT
gRIEUL,fMIEUM,fPIEUP,fSIOS,eIEUNG,fCIEUC,eHIEUCH,hKHIEUKH,hTHIEUTH,hPHIEUPH,hHIEUH,fKIYEOK A
iNIEUN A,hTIKEUT A,iRIEUL A,hMIEUM A,hPIEUP A,hSIOS A,gIEUNG A,hCIEUC A,gHIEUCH A,jKHIEUKH A
jTHIEUTH A,jPHIEUPH A,jHIEUH A,hCIEUC U,oKOREAN CHARACTER OJEON,e HU,+1,vIDEOGRAPH ONE,dTWO,cHREE
fFOUR,dIVE,eSIX,cEVEN,fEIGHT,fNINE,eTEN,dMOON,eFIRE,eWATER,eOOD,eMETAL,fEARTH,fSUN,cTOCK,fHAVE
eSOCIETY,hNAME,eSPECIAL,hFINANCIAL,jCONGRATULATION,oLABOR,fREPRESENT,jCALL,eSTUDY,eUPERVISE
jENTERPRISE,kRESOURCE,iALLIANCE,iFESTIVAL,iREST,eSELF,eREACH,zeCIRCLED IDEOGRAPH QUESTION
iKINDERGARTEN,mSCHOOL,gKOTO,oNUMBER TEN ON BLACK SQUARE,sWENTY ON BLACK SQUARE
vHIRTY ON BLACK SQUARE,wFORTY ON BLACK SQUARE,uIFTY ON BLACK SQUARE,vSIXTY ON BLACK SQUARE
uEVENTY ON BLACK SQUARE,xEIGHTY ON BLACK SQUARE,zmPARTNERSHIP SIGN,qCIRCLED NUMBER TWENTY ONE,dTWO
cHREE,fFOUR,dIVE,eSIX,cEVEN,fEIGHT,fNINE,kHIRTY,a ONE,dTWO,cHREE,fFOUR,dIVE,sHANGUL KIYEOK,gNIEUN
fTIKEUT,gRIEUL,fMIEUM,fPIEUP,fSIOS,eIEUNG,fCIEUC,eHIEUCH,hKHIEUKH,hTHIEUTH,hPHIEUPH,hHIEUH
fKIYEOK A,iNIEUN A,hTIKEUT A,iRIEUL A,hMIEUM A,hPIEUP A,hSIOS A,gIEUNG A,hCIEUC A,gHIEUCH A
jKHIEUKH A,jTHIEUTH A,jPHIEUPH A,jHIEUH A,oKOREAN CHARACTER CHAMKO,gJUEUI,wHANGUL IEUNG U
wKOREAN STANDARD SYMBOL,wCIRCLED IDEOGRAPH ONE,dTWO,cHREE,fFOUR,dIVE,eSIX,cEVEN,fEIGHT,fNINE,eTEN
dMOON,eFIRE,eWATER,eOOD,eMETAL,fEARTH,fSUN,cTOCK,fHAVE,eSOCIETY,hNAME,eSPECIAL,hFINANCIAL
jCONGRATULATION,oLABOR,fSECRET,gMALE,eFEMALE,gSUITABLE,iEXCELLENT,jPRINT,fATTENTION,jITEM,eREST
eCOPY,cRRECT,hHIGH,eCENTRE,gLOW,cEFT,eRIGHT,fMEDICINE,iRELIGION,iSTUDY,eUPERVISE,jENTERPRISE
kRESOURCE,iALLIANCE,iNIGHT,pNUMBER THIRTY SIX,cEVEN,fEIGHT,fNINE,lFORTY,a ONE,dTWO,cHREE,fFOUR,dIVE
eSIX,cEVEN,fEIGHT,fNINE,jIFTY,uIDEOGRAPHIC TELEGRAPH SYMBOL FOR JANUARY,hFEBRUARY,iMARCH,fAPRIL
fMAY,dJUNE,cLY,eAUGUST,gSEPTEMBER,jOCTOBER,hNOVEMBER,iDECEMBER,zqSQUARE HG,cERG,cV
jLIMITED LIABILITY SIGN,wCIRCLED KATAKANA A,bI,bU,bE,bO,bKA,bI,bU,bE,bO,cSA,bI,bU,bE,bO,cTA,bI,bU
bE,bO,cNA,bI,bU,bE,bO,cHA,bI,bU,bE,bO,cMA,bI,bU,bE,bO,cYA,bU,bO,cRA,bI,bU,bE,bO,cWA,bI,bE,bO
tSQUARE ERA NAME REIWA,oAPAATO,fRUHUA,fNPEA,eARU,eININGU,eTI,eUON,dESUKUUDO,hEKAA,fONSU,dOMU,eKAIRI
dRATTO,eORII,hGARON,dNMA,eIGA,cNII,fKYURII,gGIRUDAA,hKIRO,aGURAMU,gMEETORU,hWATTO,jGURAMU,aTON
jKURUZEIRO,gOONE,gEESU,eORUNA,eOPO,fSAIKURU,fNTIIMU,hIRINGU,gENTI,bO,fDAASU,eESI,dORU,eTON,dNANO
dOTTO,fHAITU,fPAASENTO,fTU,fBAARERU,hPIASUTORU,hKURU,dO,eBIRU,eHUARADDO,gIITO,gBUSSYERU,iHURAN
eEKUTAARU,jPESO,cNIHI,gHERUTU,gPENSU,dEZI,fBEETA,fPOINTO,gBORUTO,gHON,dPONDO,fHOORU,cN,eMAIKURO,eRU
dHHA,dRUKU,eNSYON,gIKURON,fRI,aBAARU,iEGA,aTON,fETORU,hYAADO,cRU,eUAN,eRITTORU,fRA,dUPII,dUBURU
gEMU,cNTOGEN,iWATTO,mIDEOGRAPHIC TELEGRAPH SYMBOL FOR HOUR ZERO,eONE,dTWO,cHREE,fFOUR,dIVE,eSIX
cEVEN,fEIGHT,fNINE,eTEN,dELEVEN,gTWELVE,fHIRTEEN,iFOURTEEN,hIFTEEN,hSIXTEEN,gEVENTEEN,jEIGHTEEN
iNINETEEN,iTWENTY,a-ONE,dTWO,cHREE,fFOUR,zySQUARE HPA,dDA,cAU,cBAR,dOV,cPC,cDM,a SQUARED,hCUBED,iIU
cERA NAME HEISEI,gSYOUWA,gTAISYOU,hMEIZI,oCORPORATION,lPA AMPS,hNA,cMU A,dA,cKA,bB,cMB,cGB,cCAL
dKCAL,ePF,cNF,cMU F,bG,dG,cKG,cHZ,cKHZ,dMHZ,dGHZ,dTHZ,dMU L,dL,cDL,cKL,cFM,cNM,cMU M,dM,cCM,cKM
cMM SQUARED,kCM SQUARED,kM SQUARED,jKM SQUARED,kMM CUBED,iCM CUBED,iM CUBED,hKM CUBED,iM OVER S
a SQUARED,qPA,cKPA,dMPA,dGPA,dRAD,a OVER S,a SQUARED,sPS,cNS,cMU S,dS,cPV,cNV,cMU V,dV,cKV,cMV MEGA
hPW,cNW,cMU W,dW,cKW,cMW MEGA,hK OHM,fM OHM,fAM,cBQ,cCC,bD,b OVER KG,iO,cDB,cGY,cHA,bP,cIN,cKK
bM CAPITAL,jT,cLM,bN,bOG,cX,cMB SMALL,hIL,cOL,dPH,bM,bPM,cR,cSR,bV,cWB,cV OVER M,iA OVER M
pIDEOGRAPHIC TELEGRAPH SYMBOL FOR DAY ONE,dTWO,cHREE,fFOUR,dIVE,eSIX,cEVEN,fEIGHT,fNINE,eTEN
dELEVEN,gTWELVE,fHIRTEEN,iFOURTEEN,hIFTEEN,hSIXTEEN,gEVENTEEN,jEIGHTEEN,iNINETEEN,iTWENTY,a-ONE
dTWO,cHREE,fFOUR,dIVE,eSIX,cEVEN,fEIGHT,fNINE,kHIRTY,a-ONE,zwSQUARE GAL,+6592
kHEXAGRAM FOR THE CREATIVE HEAVEN,pRECEPTIVE EARTH,tDIFFICULTY AT THE BEGINNING,zcYOUTHFUL FOLLY
oWAITING,hCONFLICT,iTHE ARMY,iHOLDING TOGETHER,qSMALL TAMING,mTREADING,iPEACE,fSTANDSTILL
kFELLOWSHIP,kGREAT POSSESSION,qMODESTY,hENTHUSIASM,kFOLLOWING,jWORK ON THE DECAYED,tAPPROACH
iCONTEMPLATION,nBITING THROUGH,oGRACE,fSPLITTING APART,pRETURN,gINNOCENCE,jGREAT TAMING
mMOUTH CORNERS,nGREAT PREPONDERANCE,tTHE ABYSMAL WATER,nCLINGING FIRE,rINFLUENCE,jDURATION,iRETREAT
hGREAT POWER,lPROGRESS,iDARKENING OF THE LIGHT,wTHE FAMILY,kOPPOSITION,jBSTRUCTION,lDELIVERANCE
jCREASE,iINCREASE,iBREAKTHROUGH,mCOMING TO MEET,oGATHERING TOGETHER,sPUSHING UPWARD,oOPPRESSION
kTHE WELL,iREVOLUTION,kTHE CAULDRON,iAROUSING THUNDER,qKEEPING STILL MOUNTAIN,zbDEVELOPMENT
lTHE MARRYING MAIDEN,tABUNDANCE,jTHE WANDERER,iGENTLE WIND,lJOYOUS LAKE,pDISPERSION,kLIMITATION
kINNER TRUTH,lSMALL PREPONDERANCE,tAFTER COMPLETION,qBEFORE COMPLETION"

end SchemaDoc.Text.Names
